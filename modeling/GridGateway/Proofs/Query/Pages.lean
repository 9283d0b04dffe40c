import GridGateway.Query.Limit

/-!
# Where pages start

The words of a limit, read as numbers: the rows before a page are counted exactly until they no longer fit a word
(`Limit.offset_toNat`), and the number of pages is rounded up (`Limit.pages_toNat`).
-/

namespace GridGateway

theorem satSub_toNat (a b : UInt64) : (satSub a b).toNat = a.toNat - b.toNat := by
  rw [satSub]
  split
  · next h => exact UInt64.toNat_sub_of_le a b h
  · next h =>
    rw [UInt64.le_iff_toNat_le, Nat.not_le] at h
    rw [UInt64.toNat_zero, Nat.sub_eq_zero_of_le (Nat.le_of_lt h)]

namespace Query.Limit

/-- The rows before a page, capped at the largest word. -/
theorem offset_toNat (l : Limit) :
    l.offset.toNat = min ((l.page.toNat - 1) * l.size.toNat) (UInt64.size - 1) := by
  have hrows : (satSub l.page 1).toNat = l.page.toNat - 1 := by rw [satSub_toNat, UInt64.toNat_one]
  unfold offset
  simp only [hrows]
  split
  · next h =>
    rw [UInt64.toNat_ofNat_of_lt' h, Nat.min_eq_left (Nat.le_sub_one_of_lt h)]
  · next h =>
    have hcap : UInt64.size - 1 ≤ (l.page.toNat - 1) * l.size.toNat := Nat.le_trans (Nat.sub_le _ _) (Nat.not_lt.1 h)
    rw [Nat.min_eq_right hcap]
    rfl

/-- The number of pages is the number of rows over the size of a page, rounded up. -/
theorem pages_toNat {l : Limit} (h : 1 ≤ l.size.toNat) (count : UInt64) :
    (l.pages count).toNat = (count.toNat + l.size.toNat - 1) / l.size.toNat := by
  have hsize : l.size ≠ 0 := by
    rintro h0
    rw [h0, UInt64.toNat_zero] at h
    exact absurd h (by decide)
  have hbound : (count.toNat + l.size.toNat - 1) / l.size.toNat ≤ count.toNat := by
    apply Nat.le_of_lt_succ
    rw [Nat.div_lt_iff_lt_mul h]
    have hmul : count.toNat ≤ count.toNat * l.size.toNat := Nat.le_mul_of_pos_right _ h
    rw [Nat.succ_mul]
    omega
  rw [pages, if_neg hsize, UInt64.toNat_ofNat_of_lt' (Nat.lt_of_le_of_lt hbound count.toNat_lt)]

end Query.Limit

end GridGateway
