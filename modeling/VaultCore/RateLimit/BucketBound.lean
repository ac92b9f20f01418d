import VaultCore.RateLimit.FixedWindow

/-!
# The bucket map is bounded

A call that finds the map full evicts the oldest bucket before it adds one.
The eviction does nothing when the oldest bucket is held under the empty key.
-/

namespace VaultCore

namespace RateLimit

/-- The bound that `maxBuckets` promises. -/
def bucketBound (config : FixedWindowRateLimitConfig) : ℚ :=
  max 1 (maxBuckets config)

/-- The key and window start of the first bucket with the least start. -/
def OldestOf (entries : List (JsString × BucketState)) :
    Option (JsString × ℚ) → Prop
  | none => entries = []
  | some (key, start) => ∃ before bucket after,
      entries = before ++ (key, bucket) :: after ∧
        bucket.windowStartMs = start ∧
        (∀ entry ∈ before, start < entry.2.windowStartMs) ∧
        ∀ entry ∈ after, start ≤ entry.2.windowStartMs

section Oldest

variable {entries seen rest : List (JsString × BucketState)}

private theorem OldestOf.snoc {key oldestKey : JsString} {bucket : BucketState}
    {oldestStart : ℚ} (oldest : OldestOf seen (some (oldestKey, oldestStart)))
    (later : oldestStart ≤ bucket.windowStartMs) :
    OldestOf (seen ++ [(key, bucket)]) (some (oldestKey, oldestStart)) := by
  obtain ⟨before, held, after, rfl, start, older, younger⟩ := oldest
  refine ⟨before, held, after ++ [(key, bucket)], ?_, start, older, ?_⟩
  · rw [List.append_assoc, List.cons_append]
  · intro entry member
    rcases List.mem_append.mp member with earlier | last
    · exact younger entry earlier
    · rw [List.mem_singleton.mp last]
      exact later

private theorem OldestOf.replaced {key oldestKey : JsString}
    {bucket : BucketState} {oldestStart : ℚ}
    (oldest : OldestOf seen (some (oldestKey, oldestStart)))
    (earlier : bucket.windowStartMs < oldestStart) :
    OldestOf (seen ++ [(key, bucket)])
      (some (key, bucket.windowStartMs)) := by
  obtain ⟨before, held, after, rfl, start, older, younger⟩ := oldest
  refine ⟨_, bucket, [], rfl, rfl, ?_, by simp⟩
  intro entry member
  rcases List.mem_append.mp member with inBefore | fromHeld
  · exact earlier.trans (older entry inBefore)
  · rcases List.mem_cons.mp fromHeld with same | inAfter
    · rw [same]
      exact earlier.trans_eq start.symm
    · exact earlier.trans_le (younger entry inAfter)

theorem oldestEntry_spec {oldest : Option (JsString × ℚ)}
    (soFar : OldestOf seen oldest) :
    OldestOf (seen ++ rest) (oldestEntry rest oldest) := by
  induction rest generalizing seen oldest with
  | nil =>
      rw [List.append_nil]
      exact soFar
  | cons entry rest ih =>
      obtain ⟨key, bucket⟩ := entry
      rw [List.append_cons]
      cases oldest with
      | none =>
          apply ih
          obtain rfl : seen = [] := soFar
          exact ⟨[], bucket, [], rfl, rfl, by simp, by simp⟩
      | some found =>
          obtain ⟨oldestKey, oldestStart⟩ := found
          rw [oldestEntry]
          split
          · rename_i earlier
            exact ih (soFar.replaced earlier)
          · rename_i later
            exact ih (soFar.snoc (not_lt.mp later))

/-- There is one oldest bucket. -/
theorem OldestOf.unique {first second : JsString × ℚ}
    (oldest : OldestOf entries (some first))
    (other : OldestOf entries (some second)) : first = second := by
  obtain ⟨key, start⟩ := first
  obtain ⟨otherKey, otherStart⟩ := second
  obtain ⟨before, bucket, after, split, rfl, older, younger⟩ := oldest
  obtain ⟨otherBefore, otherBucket, otherAfter, otherSplit, rfl, otherOlder,
    otherYounger⟩ := other
  rw [split] at otherSplit
  rcases List.append_eq_append_iff.mp otherSplit with
    ⟨middle, spread, rest⟩ | ⟨middle, spread, rest⟩
  · cases middle with
    | nil =>
        cases rest
        rfl
    | cons entry middle =>
        obtain ⟨rfl, rfl⟩ := List.cons.inj rest
        have inBefore := otherOlder (key, bucket) (by simp [spread])
        have inAfter := younger (otherKey, otherBucket) (by simp)
        exact absurd inBefore (not_lt.mpr inAfter)
  · cases middle with
    | nil =>
        cases rest
        rfl
    | cons entry middle =>
        obtain ⟨rfl, rfl⟩ := List.cons.inj rest
        have inBefore := older (otherKey, otherBucket) (by simp [spread])
        have inAfter := otherYounger (key, bucket) (by simp)
        exact absurd inBefore (not_lt.mpr inAfter)

end Oldest

/-- The oldest bucket is held under the empty key, which is falsy. -/
def OldestUnderEmptyKey (buckets : Buckets) : Prop :=
  ∃ start, OldestOf buckets.entries (some ([], start))

/-- The call adds a bucket to a map that has no room and makes none: either
the map is full and its oldest bucket is held under the empty key, or the
bound is a fraction that the added bucket steps across. -/
structure Overfills (config : FixedWindowRateLimitConfig)
    (call : TimedOperation) (buckets : Buckets) : Prop where
  decides : call.operation.Decides call.operation.key
  fresh : call.operation.key ∉ (pruneExpired buckets config call.now).keys
  crowded :
    maxBuckets config ≤ (pruneExpired buckets config call.now).size ∧
        OldestUnderEmptyKey (pruneExpired buckets config call.now) ∨
      1 ≤ (pruneExpired buckets config call.now).size ∧
        ((pruneExpired buckets config call.now).size : ℚ) <
          maxBuckets config ∧
        maxBuckets config < (pruneExpired buckets config call.now).size + 1

section Eviction

variable {config : FixedWindowRateLimitConfig} {now : ℚ} {buckets : Buckets}
  {key : JsString}

theorem evictOldestBucket_stuck (stuck : OldestUnderEmptyKey buckets) :
    evictOldestBucket buckets = buckets := by
  obtain ⟨start, oldest⟩ := stuck
  have found : OldestOf buckets.entries (oldestEntry buckets.entries none) :=
    @oldestEntry_spec [] buckets.entries none rfl
  cases entry : oldestEntry buckets.entries none with
  | none => rw [evictOldestBucket, entry]
  | some pair =>
      rw [entry] at found
      obtain rfl := oldest.unique found
      rw [evictOldestBucket, entry]
      exact if_pos rfl

/-- An eviction that is not stuck drops one bucket. -/
theorem size_evictOldestBucket (free : ¬ OldestUnderEmptyKey buckets)
    (occupied : 1 ≤ buckets.size) :
    (evictOldestBucket buckets).size + 1 = buckets.size := by
  have found : OldestOf buckets.entries (oldestEntry buckets.entries none) :=
    @oldestEntry_spec [] buckets.entries none rfl
  cases entry : oldestEntry buckets.entries none with
  | none =>
      rw [entry] at found
      have empty : buckets.entries.length = 0 := congrArg List.length found
      rw [OrderedMap.size, empty] at occupied
      omega
  | some pair =>
      obtain ⟨oldestKey, start⟩ := pair
      rw [entry] at found
      have named : oldestKey ≠ [] := by
        rintro rfl
        exact free ⟨start, found⟩
      have held : oldestKey ∈ buckets.keys := by
        obtain ⟨before, bucket, after, split, -⟩ := found
        rw [OrderedMap.keys, split]
        simp
      have evicted : evictOldestBucket buckets = buckets.delete oldestKey := by
        rw [evictOldestBucket, entry]
        exact if_neg named
      rw [evicted]
      exact OrderedMap.size_delete_of_mem held

theorem size_evictOldestBucket_le :
    (evictOldestBucket buckets).size ≤ buckets.size := by
  unfold evictOldestBucket
  split
  · split
    · exact le_rfl
    · exact OrderedMap.size_filter_le _ _
  · exact le_rfl

/-- The map into which a new bucket is put. -/
def roomFor (config : FixedWindowRateLimitConfig) (pruned : Buckets) :
    Buckets :=
  if maxBuckets config ≤ (pruned.size : ℚ) then evictOldestBucket pruned
  else pruned

theorem getOrCreateBucket_pruned_none
    (fresh : key ∉ (pruneExpired buckets config now).keys) :
    (getOrCreateBucket (pruneExpired buckets config now) config key now).2 =
      (roomFor config (pruneExpired buckets config now)).set key
        (freshBucket now) := by
  have absent := OrderedMap.get?_eq_none_iff.mpr fresh
  have again : pruneExpired (pruneExpired buckets config now) config now =
      pruneExpired buckets config now := OrderedMap.filter_filter_self _ _
  simp only [getOrCreateBucket, absent, again, roomFor]

theorem mem_keys_roomFor {pruned : Buckets}
    (member : key ∈ (roomFor config pruned).keys) : key ∈ pruned.keys := by
  unfold roomFor at member
  split at member
  · exact mem_keys_evictOldestBucket member
  · exact member

theorem key_mem_getOrCreateBucket :
    key ∈ (getOrCreateBucket buckets config key now).2.keys := by
  cases held : buckets.get? key with
  | some bucket =>
      rw [getOrCreateBucket_of_some held]
      exact OrderedMap.mem_keys_set.mpr (.inl rfl)
  | none =>
      simp only [getOrCreateBucket, held]
      exact OrderedMap.mem_keys_set.mpr (.inl rfl)

end Eviction

section Step

variable {config : FixedWindowRateLimitConfig} {call : TimedOperation}
  {buckets : Buckets}

/-- A call that decides has the size of finding or creating its bucket. -/
theorem size_perform_of_decides
    (decides : call.operation.Decides call.operation.key) :
    (perform config call buckets).2.size =
      (getOrCreateBucket (pruneExpired buckets config call.now) config
        call.operation.key call.now).2.size := by
  obtain ⟨now, operation⟩ := call
  cases operation with
  | check key => rfl
  | consume key =>
      simp only [perform, consume]
      split
      · exact OrderedMap.size_set_of_mem _ key_mem_getOrCreateBucket
      · rfl
  | reset key =>
      rcases decides with other | other
      · cases other
      · cases other

theorem size_perform_of_held
    (decides : call.operation.Decides call.operation.key)
    (held : call.operation.key ∈
      (pruneExpired buckets config call.now).keys) :
    (perform config call buckets).2.size =
      (pruneExpired buckets config call.now).size := by
  rw [size_perform_of_decides decides]
  cases found : (pruneExpired buckets config call.now).get?
      call.operation.key with
  | none => exact absurd held (OrderedMap.get?_eq_none_iff.mp found)
  | some bucket =>
      rw [getOrCreateBucket_of_some found]
      exact OrderedMap.size_set_of_mem _ held

theorem size_perform_of_fresh
    (decides : call.operation.Decides call.operation.key)
    (fresh : call.operation.key ∉
      (pruneExpired buckets config call.now).keys) :
    (perform config call buckets).2.size =
      (roomFor config (pruneExpired buckets config call.now)).size + 1 := by
  rw [size_perform_of_decides decides, getOrCreateBucket_pruned_none fresh]
  apply OrderedMap.size_set_of_not_mem
  intro member
  exact fresh (mem_keys_roomFor member)

theorem roomFor_bounded {pruned : Buckets}
    (bounded : (pruned.size : ℚ) ≤ bucketBound config)
    (free : maxBuckets config ≤ pruned.size → ¬ OldestUnderEmptyKey pruned)
    (whole : 1 ≤ pruned.size → (pruned.size : ℚ) < maxBuckets config →
      (pruned.size : ℚ) + 1 ≤ maxBuckets config) :
    ((roomFor config pruned).size : ℚ) + 1 ≤ bucketBound config := by
  have one : (1 : ℚ) ≤ bucketBound config := le_max_left _ _
  have promised : maxBuckets config ≤ bucketBound config := le_max_right _ _
  rcases Nat.eq_zero_or_pos pruned.size with empty | occupied
  · have kept : (roomFor config pruned).size = 0 := by
      unfold roomFor
      split
      · exact Nat.le_zero.mp (empty ▸ size_evictOldestBucket_le)
      · exact empty
    rw [kept]
    simpa using one
  · unfold roomFor
    split
    · rename_i full
      have evicted := size_evictOldestBucket (free full) occupied
      calc
        ((evictOldestBucket pruned).size : ℚ) + 1 = pruned.size := by
          exact_mod_cast evicted
        _ ≤ bucketBound config := bounded
    · rename_i space
      exact (whole occupied (not_le.mp space)).trans promised

/-- What one call preserves. -/
theorem perform_bounded
    (bounded : (buckets.size : ℚ) ≤ bucketBound config)
    (fits : ¬ Overfills config call buckets) :
    ((perform config call buckets).2.size : ℚ) ≤ bucketBound config := by
  have pruned : ((pruneExpired buckets config call.now).size : ℚ) ≤
      bucketBound config := by
    have smaller : (pruneExpired buckets config call.now).size ≤
        buckets.size := OrderedMap.size_filter_le _ _
    calc
      ((pruneExpired buckets config call.now).size : ℚ) ≤ buckets.size := by
        exact_mod_cast smaller
      _ ≤ bucketBound config := bounded
  by_cases decides : call.operation.Decides call.operation.key
  · by_cases held : call.operation.key ∈
        (pruneExpired buckets config call.now).keys
    · rw [size_perform_of_held decides held]
      exact pruned
    · rw [size_perform_of_fresh decides held, Nat.cast_add, Nat.cast_one]
      apply roomFor_bounded pruned
      · intro full stuck
        exact fits ⟨decides, held, .inl ⟨full, stuck⟩⟩
      · intro occupied space
        by_contra across
        exact fits ⟨decides, held,
          .inr ⟨occupied, space, not_le.mp across⟩⟩
  · obtain ⟨now, operation⟩ := call
    cases operation with
    | check key => exact absurd (.inl rfl) decides
    | consume key => exact absurd (.inr rfl) decides
    | reset key =>
        have smaller : (reset key buckets).size ≤ buckets.size :=
          OrderedMap.size_filter_le _ _
        calc
          ((reset key buckets).size : ℚ) ≤ buckets.size := by
            exact_mod_cast smaller
          _ ≤ bucketBound config := bounded

/-- A call that overfills the map leaves it above its bound. -/
theorem Overfills.exceeds (overfills : Overfills config call buckets) :
    bucketBound config < ((perform config call buckets).2.size : ℚ) := by
  rw [size_perform_of_fresh overfills.decides overfills.fresh, Nat.cast_add,
    Nat.cast_one]
  rcases overfills.crowded with ⟨full, stuck⟩ | ⟨occupied, space, across⟩
  · have kept : roomFor config (pruneExpired buckets config call.now) =
        pruneExpired buckets config call.now := by
      rw [roomFor, if_pos full]
      exact evictOldestBucket_stuck stuck
    have occupied : 1 ≤ (pruneExpired buckets config call.now).size := by
      obtain ⟨start, before, bucket, after, split, -⟩ := stuck
      rw [OrderedMap.size, split, List.length_append, List.length_cons]
      omega
    rw [kept]
    apply max_lt
    · have counted : (1 : ℚ) ≤
          (pruneExpired buckets config call.now).size := by
        exact_mod_cast occupied
      linarith
    · linarith
  · rw [roomFor, if_neg (not_le.mpr space)]
    have counted : (1 : ℚ) ≤ (pruneExpired buckets config call.now).size := by
      exact_mod_cast occupied
    exact max_lt (by linarith) across

end Step

/-- In a run from the empty map, every state is within the bound exactly when
no call overfills the state it finds. -/
theorem bucket_map_bounded_iff (config : FixedWindowRateLimitConfig)
    (calls : List TimedOperation) :
    (∀ done, done <+: calls →
      ((run config .empty done).size : ℚ) ≤ max 1 (maxBuckets config)) ↔
      ∀ done call, done ++ [call] <+: calls →
        ¬ Overfills config call (run config .empty done) := by
  constructor
  · intro bounded done call reached overfills
    have after := bounded (done ++ [call]) reached
    rw [run_append] at after
    exact absurd after (not_le.mpr overfills.exceeds)
  · intro fits done
    induction done using List.reverseRecOn with
    | nil =>
        intro _
        have one : (0 : ℚ) ≤ 1 := zero_le_one
        exact one.trans (le_max_left _ _)
    | append_singleton done call ih =>
        intro reached
        have earlier := ih ((List.prefix_append done [call]).trans reached)
        rw [run_append]
        exact perform_bounded earlier (fits done call reached)

/-- Room for two buckets, the first of them under the empty key. -/
def crowdedConfig : FixedWindowRateLimitConfig :=
  { max := 5, windowMs := 60000, maxBuckets := some 2 }

def crowdingCalls : List TimedOperation :=
  [{ now := 0, operation := .consume [] },
    { now := 1000, operation := .consume (js "second") },
    { now := 2000, operation := .consume (js "third") }]

theorem empty_key_never_evicted :
    ¬ ∀ done, done <+: crowdingCalls →
      ((run crowdedConfig .empty done).size : ℚ) ≤
        max 1 (maxBuckets crowdedConfig) := by
  intro bounded
  have all := bounded crowdingCalls List.prefix_rfl
  have size : (run crowdedConfig .empty crowdingCalls).size = 3 := by
    decide +kernel
  have bound : max 1 (maxBuckets crowdedConfig) = 2 := by decide +kernel
  rw [size, bound] at all
  exact absurd all (by norm_num)

end RateLimit

end VaultCore
