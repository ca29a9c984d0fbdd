import OrphanWatch.Text.Numeral

/-!
Sums of amounts, exact and in 64 bits.
-/

namespace OrphanWatch

def total (amounts : List Nat) : Nat :=
  amounts.foldr (· + ·) 0

@[simp]
theorem total_nil : total [] = 0 := rfl

@[simp]
theorem total_cons (amount : Nat) (amounts : List Nat) :
    total (amount :: amounts) = amount + total amounts := rfl

theorem total_append (first second : List Nat) :
    total (first ++ second) = total first + total second := by
  induction first with
  | nil => rw [List.nil_append, total_nil, Nat.zero_add]
  | cons amount rest ih => rw [List.cons_append, total_cons, ih, total_cons, Nat.add_assoc]

/-- The sum in 64 bits, which wraps around at every addition. -/
def wrappedTotal (amounts : List Nat) : Nat :=
  amounts.foldl (fun sum amount => (sum + amount) % Text.wordSize) 0

/-- Wrapping around at every addition or once at the end is the same. -/
theorem wrappedTotal_eq (amounts : List Nat) : wrappedTotal amounts = total amounts % Text.wordSize := by
  have hfrom : ∀ start, start < Text.wordSize →
      amounts.foldl (fun sum amount => (sum + amount) % Text.wordSize) start =
        (start + total amounts) % Text.wordSize := by
    induction amounts with
    | nil => exact fun start hstart => (Nat.mod_eq_of_lt hstart).symm
    | cons amount rest ih =>
      intro start _
      rw [List.foldl_cons, ih _ (Nat.mod_lt _ (by decide)), Nat.mod_add_mod, total_cons, Nat.add_assoc]
  rw [wrappedTotal, hfrom 0 (by decide), Nat.zero_add]

/-- A sum that fits into 64 bits is exact. -/
theorem wrappedTotal_eq_total {amounts : List Nat} (hfits : total amounts < Text.wordSize) :
    wrappedTotal amounts = total amounts := by
  rw [wrappedTotal_eq, Nat.mod_eq_of_lt hfits]

end OrphanWatch
