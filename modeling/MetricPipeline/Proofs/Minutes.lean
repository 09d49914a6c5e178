import Mathlib.Order.Bounds.Defs
import MetricPipeline.Proofs.Aggregation.Tiling

/-! Buckets are the UTC minutes. The double that an instant is filed under is the start of its minute, over the
whole range of instants and before the epoch too, so a store keeps the observations of two collections in one
bucket exactly when both came in the same minute, and lists the buckets in the order of their minutes. -/

namespace MetricPipeline

namespace Instant

/-- A double that is the last whole number of minutes not after `t` milliseconds, as a time that can be shown,
and not minus zero. -/
structure StartsMinute (t : Int) (x : Binary64) : Prop where
  exact : ∃ m, x.toInt? = some m ∧ IsGreatest {n : Int | 60000 ∣ n ∧ n ≤ t} m ∧
    ∃ h : m.natAbs ≤ bound, ofMillis x = .millis m h
  ne_minusZero : x ≠ .zero true

theorem isGreatest_minute (t : Int) : IsGreatest {n : Int | 60000 ∣ n ∧ n ≤ t} (60000 * (t / 60000)) := by
  refine ⟨⟨dvd_mul_right _ _, by omega⟩, ?_⟩
  rintro n ⟨⟨k, rfl⟩, hle⟩
  omega

/-- An integer becomes zero itself, never minus zero. -/
theorem ofInt_ne_minusZero {z : Int} (h : z.natAbs < 2 ^ 53) : Binary64.ofInt z ≠ .zero true := by
  intro heq
  rw [Binary64.ofInt_eq_whole h] at heq
  simp only [Binary64.whole, Binary64.zero, Binary64.finite.injEq, Fin.mk.injEq, decide_eq_true_eq] at heq
  have hpos := (Binary64.rankOfNat_pos h).2 (by omega)
  omega

theorem startsMinute (t : Int) (h : t.natAbs ≤ bound) : StartsMinute t (millis t h).minute := by
  have hbound : bound = 8640000000000000 := rfl
  have hminute : (millis t h).utcMinute? = some (t / 60000) := rfl
  have hrange := utcMinute?_range hminute
  constructor
  · refine ⟨60000 * (t / 60000), ?_, isGreatest_minute t, hrange, ?_⟩
    · rw [minute_eq hminute, Binary64.toInt?_ofInt (by omega)]
    · rw [ofMillis_minute hminute, ofMinute_valid hminute]
  · rw [minute_eq hminute]
    exact ofInt_ne_minusZero (by omega)

theorem minute_lt_iff {a b : Instant} {m n : Int} (ha : a.utcMinute? = some m) (hb : b.utcMinute? = some n) :
    a.minute.lt b.minute = true ↔ m < n := by
  have hbound : bound = 8640000000000000 := rfl
  have hra := utcMinute?_range ha
  have hrb := utcMinute?_range hb
  rw [minute_eq ha, minute_eq hb, Binary64.lt_ofInt (by omega) (by omega), decide_eq_true_iff]
  omega

end Instant

namespace Store

/-- Where the bucket that a collection is filed in stands among the buckets of a store. -/
def bucketPlace? (store : Store) (collection : Collection) : Option Nat :=
  store.timeBuckets.findIdx? fun bucket => bucket.time = .ofMillis collection.time.minute

/-- A collection of a UTC minute that is filed in the bucket at a place, which lists all observations of this
minute and no others. -/
structure FiledAt (options : StoreOptions) (collections : List Collection) (collection : Collection) (m : Int)
    (i : Nat) : Prop where
  minute : collection.time.utcMinute? = some m
  place : (holding options collections).bucketPlace? collection = some i
  lists : ∃ bucket, (holding options collections).timeBuckets[i]? = some bucket ∧
    Lists options collections m bucket

variable {options : StoreOptions} {collections : List Collection}

theorem arrivalsIn_ne_nil {collection : Collection} {m : Int} (hc : collection ∈ collections)
    (hm : collection.time.utcMinute? = some m) (hobserved : collection.arrivals options ≠ []) :
    arrivalsIn options collections m ≠ [] := by
  obtain ⟨a, ha⟩ := List.exists_mem_of_ne_nil _ hobserved
  refine List.ne_nil_of_mem (a := a) ?_
  rw [arrivalsIn, arrivals, List.mem_flatMap]
  exact ⟨collection, List.mem_filter.2 ⟨hc, decide_eq_true hm⟩, ha⟩

/-- Each collection with observations is filed at the place of its minute among the minutes with
observations. -/
theorem filedAt_of_minutes {minutes : List Int} (hminutes : minutes.Pairwise (· < ·))
    (hmem : ∀ m, m ∈ minutes ↔ arrivalsIn options collections m ≠ [])
    (hlists : List.Forall₂ (Lists options collections) minutes (holding options collections).timeBuckets)
    {collection : Collection} {m : Int} (hm : collection.time.utcMinute? = some m) {i : Nat}
    (hi : minutes[i]? = some m) : FiledAt options collections collection m i := by
  obtain ⟨hlt, hat⟩ := List.getElem?_eq_some_iff.1 hi
  have hlength := hlists.length_eq
  have hlisted : ∀ (j : Nat) (hj : j < minutes.length)
      (hj' : j < (holding options collections).timeBuckets.length),
      Lists options collections minutes[j] (holding options collections).timeBuckets[j] :=
    fun j hj hj' => hlists.get hj hj'
  have hlt' : i < (holding options collections).timeBuckets.length := by omega
  refine ⟨hm, ?_, _, List.getElem?_eq_getElem hlt', hat ▸ hlisted i hlt hlt'⟩
  rw [bucketPlace?, List.findIdx?_eq_some_iff_getElem]
  refine ⟨hlt', ?_, fun j hj => ?_⟩
  · rw [(hlisted i hlt hlt').time, hat, Instant.ofMillis_minute hm, decide_eq_true rfl]
  · -- an earlier bucket is of an earlier minute
    have hearlier := List.pairwise_iff_getElem.1 hminutes j i (by omega) hlt hj
    have hsome : arrivalsIn options collections minutes[j] ≠ [] := (hmem _).1 (List.getElem_mem _)
    obtain ⟨time, htime⟩ := exists_time_of_arrivalsIn hsome
    rw [(hlisted j (by omega) (by omega)).time, Instant.ofMillis_minute hm, decide_eq_true_iff]
    intro heq
    have := Instant.ofMinute_inj htime heq
    omega

/-- Every valid instant is filed under the exact start of its UTC minute, instants under the same double when
they are of the same minute and in the order of their minutes; and in a store of valid instants the bucket of
a collection is that of its minute, shared by the collections of this minute only, and stands before the
buckets of later minutes. -/
theorem buckets_by_minute (options : StoreOptions) (collections : List Collection)
    (hvalid : ∀ collection ∈ collections, collection.time ≠ .invalid) :
    (∀ (t : Int) (h : t.natAbs ≤ Instant.bound), Instant.StartsMinute t (Instant.millis t h).minute) ∧
    (∀ (s t : Int) (hs : s.natAbs ≤ Instant.bound) (ht : t.natAbs ≤ Instant.bound),
      ((Instant.millis s hs).minute = (Instant.millis t ht).minute ↔ s / 60000 = t / 60000) ∧
      ((Instant.millis s hs).minute.lt (Instant.millis t ht).minute = true ↔ s / 60000 < t / 60000)) ∧
    ∀ a ∈ collections, a.arrivals options ≠ [] → ∀ b ∈ collections, b.arrivals options ≠ [] →
      ∃ m i n j, FiledAt options collections a m i ∧ FiledAt options collections b n j ∧
        (i = j ↔ m = n) ∧ (i < j ↔ m < n) := by
  refine ⟨Instant.startsMinute, fun s t hs ht => ⟨?_, Instant.minute_lt_iff rfl rfl⟩, ?_⟩
  · rw [Instant.minute_eq_iff (fun h => Instant.noConfusion h) (b := .millis t ht) rfl]
    exact Option.some_inj
  obtain ⟨minutes, hminutes, hmem, hlists⟩ := exists_minutes options hvalid
  have hfiled : ∀ c ∈ collections, c.arrivals options ≠ [] →
      ∃ m i, minutes[i]? = some m ∧ FiledAt options collections c m i := by
    intro c hc hobserved
    obtain ⟨m, hm⟩ := Instant.exists_utcMinute (hvalid c hc)
    obtain ⟨i, hi⟩ := List.mem_iff_getElem?.1 ((hmem m).2 (arrivalsIn_ne_nil hc hm hobserved))
    exact ⟨m, i, hi, filedAt_of_minutes hminutes hmem hlists hm hi⟩
  intro a ha hobservedA b hb hobservedB
  obtain ⟨m, i, hi, hfiledA⟩ := hfiled a ha hobservedA
  obtain ⟨n, j, hj, hfiledB⟩ := hfiled b hb hobservedB
  obtain ⟨hilt, rfl⟩ := List.getElem?_eq_some_iff.1 hi
  obtain ⟨hjlt, rfl⟩ := List.getElem?_eq_some_iff.1 hj
  refine ⟨_, i, _, j, hfiledA, hfiledB, ?_, hminutes.sortedLT.getElem_lt_getElem_iff.symm⟩
  exact hminutes.sortedLT.nodup.getElem_inj_iff.symm

/-- Calls in the last minute before the epoch and at the end of the range of instants. -/
def edges : List Collection :=
  [retries (-1) "B" [2], retries (-60000) "A" [3], retries 8640000000000000 "A" [5],
    retries 8639999999999999 "A" [4]]

/-- The last millisecond of a minute is in the bucket of this minute, also where doubles are sparsest. -/
theorem buckets_by_minute_edges :
    (Instant.ofInt 8639999999999999).minute.toInt? = some 8639999999940000 ∧
    (holding ⟨[], [.all], none, []⟩ edges).bucketPlace? (retries (-1) "B" [2]) =
      (holding ⟨[], [.all], none, []⟩ edges).bucketPlace? (retries (-60000) "A" [3]) ∧
    ∃ i j, (holding ⟨[], [.all], none, []⟩ edges).bucketPlace? (retries 8639999999999999 "A" [4]) = some i ∧
      (holding ⟨[], [.all], none, []⟩ edges).bucketPlace? (retries 8640000000000000 "A" [5]) = some j ∧
      i < j := by
  obtain ⟨hstarts, -, hfiled⟩ := buckets_by_minute ⟨[], [.all], none, []⟩ edges (by decide +kernel)
  refine ⟨?_, ?_, ?_⟩
  · obtain ⟨m, hint, hgreatest, -⟩ := (hstarts 8639999999999999 (by decide)).exact
    rw [hgreatest.unique (Instant.isGreatest_minute _)] at hint
    exact hint
  · obtain ⟨m, i, n, j, ha, hb, hsame, -⟩ := hfiled (retries (-1) "B" [2]) (by simp [edges])
      (by decide +kernel) (retries (-60000) "A" [3]) (by simp [edges]) (by decide +kernel)
    obtain rfl : m = -1 := (Option.some.inj ha.minute).symm
    obtain rfl : n = -1 := (Option.some.inj hb.minute).symm
    rw [ha.place, hb.place, hsame.2 rfl]
  · obtain ⟨m, i, n, j, ha, hb, -, hbefore⟩ := hfiled (retries 8639999999999999 "A" [4]) (by simp [edges])
      (by decide +kernel) (retries 8640000000000000 "A" [5]) (by simp [edges]) (by decide +kernel)
    obtain rfl : m = 143999999999 := (Option.some.inj ha.minute).symm
    obtain rfl : n = 144000000000 := (Option.some.inj hb.minute).symm
    exact ⟨i, j, ha.place, hb.place, hbefore.2 (by decide)⟩

end Store
end MetricPipeline
