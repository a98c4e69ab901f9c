import FleetTrial.Proofs.Measurement.Aggregate
import Mathlib.Algebra.Order.BigOperators.Group.List
import Mathlib.Algebra.Order.Field.Basic
import Mathlib.Algebra.Order.Ring.Rat

/-!
# The mean between the extremes

An entry of a tally keeps the number, the sum, the least and the greatest of the values of its
label, and its mean is the sum divided by the number. The sum stops at the largest word while the
other three do not, so the mean never exceeds the greatest value but it can fall below the least
one: it does so exactly if even the least value, taken as often as there are values, outgrows a
word. As long as the sum of the values fits a word the mean lies between them.
-/

namespace FleetTrial

namespace LabelTally

variable {t : LabelTally} {values : List UInt64} {least greatest : UInt64}

/-- The entry of a label behind some more of its values. -/
def recordAll (values : List UInt64) (t : LabelTally) : LabelTally :=
  values.foldl (fun t value => t.record value) t

/-- The mean as a rational number, before it is rounded to a double. -/
def exactMean (t : LabelTally) : ℚ := t.total.toNat / t.count

/-- Behind some values an entry tells of them. -/
theorem summarizes_recordAll (label : String) (hvalues : values ≠ []) :
    ((empty label).recordAll values).Summarizes values := by
  induction values using List.reverseRecOn with
  | nil => exact absurd rfl hvalues
  | append_singleton values value ih =>
    rw [recordAll, List.foldl_append]
    by_cases hfirst : values = []
    · subst hfirst
      exact summarizes_record_empty label value
    · exact (ih hfirst).record value

namespace Summarizes

variable (h : t.Summarizes values)

include h

/-- An entry that tells of values has counted some. -/
theorem count_pos : 0 < t.count := by
  obtain ⟨_, hmem, _⟩ := h.least_eq
  rw [h.count_eq]
  exact List.length_pos_of_mem hmem

/-- The sum of the values is at least as large as if all were the least one. -/
theorem least_mul_count_le (hleast : ∀ value ∈ values, least ≤ value) :
    least.toNat * t.count ≤ (values.map UInt64.toNat).sum := by
  have hsum := List.card_nsmul_le_sum (values.map UInt64.toNat) least.toNat
    (List.forall_mem_map.mpr fun value hvalue => UInt64.le_iff_toNat_le.mp (hleast value hvalue))
  rw [List.length_map, ← h.count_eq, Nat.nsmul_eq_mul, Nat.mul_comm] at hsum
  exact hsum

/-- The sum of the values is at most as large as if all were the greatest one. -/
theorem sum_le_greatest_mul_count (hgreatest : ∀ value ∈ values, value ≤ greatest) :
    (values.map UInt64.toNat).sum ≤ greatest.toNat * t.count := by
  have hsum := List.sum_le_card_nsmul (values.map UInt64.toNat) greatest.toNat
    (List.forall_mem_map.mpr fun value hvalue =>
      UInt64.le_iff_toNat_le.mp (hgreatest value hvalue))
  rw [List.length_map, ← h.count_eq, Nat.nsmul_eq_mul, Nat.mul_comm] at hsum
  exact hsum

end Summarizes

/-- What the extremes of an entry say of its sum and of its mean. Only the least value can be out
of their reach, and only because the sum has stopped at the largest word. -/
structure IsBracketed (t : LabelTally) (least greatest : UInt64) : Prop where
  least_eq : t.least = some least
  greatest_eq : t.greatest = some greatest
  total_le : t.total.toNat ≤ greatest.toNat * t.count
  le_total_iff : least.toNat * t.count ≤ t.total.toNat ↔ least.toNat * t.count ≤ Text.maxWord64
  mean_le : t.exactMean ≤ greatest.toNat
  le_mean_iff : least.toNat ≤ t.exactMean ↔ least.toNat * t.count ≤ Text.maxWord64

/-- The extremes bracket the mean as they bracket the sum. -/
theorem isBracketed_of_total (hcount : 0 < t.count) (hleast : t.least = some least)
    (hgreatest : t.greatest = some greatest)
    (htotal : t.total.toNat ≤ greatest.toNat * t.count)
    (htotal_iff : least.toNat * t.count ≤ t.total.toNat ↔
      least.toNat * t.count ≤ Text.maxWord64) : t.IsBracketed least greatest where
  least_eq := hleast
  greatest_eq := hgreatest
  total_le := htotal
  le_total_iff := htotal_iff
  mean_le := by
    rw [exactMean, div_le_iff₀ (Nat.cast_pos.mpr hcount)]
    exact_mod_cast htotal
  le_mean_iff := by
    rw [exactMean, le_div_iff₀ (Nat.cast_pos.mpr hcount), ← htotal_iff]
    exact_mod_cast Iff.rfl

/-- The extremes of an entry that tells of values bracket its sum and its mean, from below too if
the sum of the values fits a word. -/
theorem Summarizes.exists_isBracketed (h : t.Summarizes values) :
    ∃ least greatest, t.IsBracketed least greatest ∧
      ((values.map UInt64.toNat).sum ≤ Text.maxWord64 → least.toNat ≤ t.exactMean) := by
  obtain ⟨least, _, hleast, hle⟩ := h.least_eq
  obtain ⟨greatest, _, hgreatest, hge⟩ := h.greatest_eq
  have hlower := h.least_mul_count_le hle
  have hupper := h.sum_le_greatest_mul_count hge
  have htotal := h.total_eq
  have hbracketed : t.IsBracketed least greatest :=
    isBracketed_of_total h.count_pos hleast hgreatest (by omega) (by omega)
  exact ⟨least, greatest, hbracketed,
    fun hfits => hbracketed.le_mean_iff.mpr (Nat.le_trans hlower hfits)⟩

/-- The mean of a label lies between its extremes as far as words go. Behind any values the sum is
at most the greatest value times their number, so the mean is never above the greatest value. The
sum is at least the least value times their number, and the mean not below the least value, exactly
as long as that product fits a word, which it does if the sum of the values fits one. Their number
fits a word unless there are more values than that. The same is true of every label that is told of
in the end, whatever the users have done. -/
theorem mean_lies_between_extremes :
    (∀ (label : String) (values : List UInt64), values ≠ [] →
      ∃ least greatest, ((empty label).recordAll values).IsBracketed least greatest ∧
        ((values.map UInt64.toNat).sum ≤ Text.maxWord64 →
          least.toNat ≤ ((empty label).recordAll values).exactMean) ∧
        (values.length ≤ Text.maxWord64 →
          ((empty label).recordAll values).count ≤ Text.maxWord64)) ∧
    ∀ (deeds : List Tally.Deed), ∀ t ∈ (Tally.empty.performAll deeds).labels,
      (∃ least greatest, t.IsBracketed least greatest) ∧
        ((Tally.eventsIn deeds).length ≤ Text.maxWord64 → t.count ≤ Text.maxWord64) := by
  constructor
  · intro label values hvalues
    have hsummarizes := summarizes_recordAll label hvalues
    obtain ⟨least, greatest, hbracketed, hfits⟩ := hsummarizes.exists_isBracketed
    exact ⟨least, greatest, hbracketed, hfits, hsummarizes.count_eq.trans_le⟩
  · intro deeds t ht
    have htells := Tally.tells_performAll deeds
    obtain ⟨least, greatest, hbracketed, _⟩ := (htells.summarizes t ht).exists_isBracketed
    exact ⟨⟨least, greatest, hbracketed⟩, fun hfew => Nat.le_trans (htells.count_le ht) hfew⟩

/-- The mean of two small values lies between them, and so does that of the largest word and a
small value, although the sum of these two has stopped. -/
theorem mean_lies_between_extremes_of_stopped_sum :
    (∃ least greatest, ((empty "ReadyReplicas").recordAll [3, 5]).IsBracketed least greatest ∧
      least.toNat ≤ ((empty "ReadyReplicas").recordAll [3, 5]).exactMean ∧
      ((empty "ReadyReplicas").recordAll [3, 5]).count ≤ Text.maxWord64) ∧
    ∃ t ∈ (Tally.empty.performAll [.event ⟨"ReadyReplicas", 18446744073709551615, 0, 10⟩,
        .event ⟨"ReadyReplicas", 5, 0, 11⟩]).labels,
      t.total = 18446744073709551615 ∧ t.count = 2 ∧ t.count ≤ Text.maxWord64 ∧
      ∃ least greatest, t.IsBracketed least greatest ∧ least.toNat ≤ t.exactMean := by
  obtain ⟨hbehind, htold⟩ := mean_lies_between_extremes
  constructor
  · obtain ⟨least, greatest, hbracketed, hfits, hcount⟩ :=
      hbehind "ReadyReplicas" [3, 5] (List.cons_ne_nil _ _)
    exact ⟨least, greatest, hbracketed, hfits (by decide), hcount (by decide)⟩
  · let t : LabelTally :=
      ⟨"ReadyReplicas", 2, 18446744073709551615, some 5, some 18446744073709551615⟩
    have ht : t ∈ (Tally.empty.performAll [.event ⟨"ReadyReplicas", 18446744073709551615, 0, 10⟩,
        .event ⟨"ReadyReplicas", 5, 0, 11⟩]).labels := by decide
    obtain ⟨⟨least, greatest, hbracketed⟩, hcount⟩ := htold _ t ht
    have hleast : (5 : UInt64) = least := Option.some.inj hbracketed.least_eq
    refine ⟨t, ht, rfl, rfl, hcount (by decide), least, greatest, hbracketed,
      hbracketed.le_mean_iff.mpr ?_⟩
    subst hleast
    decide

/-- The largest word twice: the sum has stopped at it, so the mean is half of what either value is,
although both of them are the least one. -/
theorem mean_below_least_of_two_largest_words :
    let t := (empty "ReadyReplicas").recordAll [18446744073709551615, 18446744073709551615]
    t.least = some 18446744073709551615 ∧ t.greatest = some 18446744073709551615 ∧
    ¬ (18446744073709551615 : UInt64).toNat * t.count ≤ t.total.toNat ∧
    t.exactMean < (18446744073709551615 : UInt64).toNat := by
  intro t
  have htotal : ¬ (18446744073709551615 : UInt64).toNat * t.count ≤ t.total.toNat := by decide
  refine ⟨by decide, by decide, htotal, ?_⟩
  have hcount : (0 : ℚ) < t.count := Nat.cast_pos.mpr (by decide)
  rw [exactMean, div_lt_iff₀ hcount]
  exact_mod_cast Nat.lt_of_not_le htotal

end LabelTally

end FleetTrial
