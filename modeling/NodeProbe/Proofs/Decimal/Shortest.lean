import NodeProbe.Decimal

set_option autoImplicit false

namespace NodeProbe.Decimal

-- The points of the grid lie closer to each other than half a unit in the last place.
def Fine (exponent grid : Int) : Prop := (quarterUnit exponent grid).2 < 2 * (quarterUnit exponent grid).1

instance (exponent grid : Int) : Decidable (Fine exponent grid) := Nat.decLt _ _

theorem fine_step (exponent grid : Int) (fine : Fine exponent grid) : Fine exponent (grid - 1) := by
  simp only [Fine, quarterUnit] at fine ⊢
  by_cases coarse : 0 < grid
  · obtain ⟨whole, rfl⟩ := Int.eq_ofNat_of_zero_le (Int.le_of_lt coarse)
    obtain ⟨below, rfl⟩ := Nat.exists_eq_succ_of_ne_zero (by omega : whole ≠ 0)
    have now : (-((below.succ : Nat) : Int)).toNat = 0 := by omega
    have next : (-(((below.succ : Nat) : Int) - 1)).toNat = 0 := by omega
    have up : (((below.succ : Nat) : Int)).toNat = below + 1 := by omega
    have down : (((below.succ : Nat) : Int) - 1).toNat = below := by omega
    rw [now, up, Nat.pow_eq, Nat.pow_eq, Nat.pow_eq, Nat.pow_eq, Nat.pow_succ] at fine
    rw [next, down, Nat.pow_eq, Nat.pow_eq, Nat.pow_eq, Nat.pow_eq]
    have bigger : 2 ^ (2 - exponent).toNat * 10 ^ below ≤ 2 ^ (2 - exponent).toNat * (10 ^ below * 10) :=
      Nat.mul_le_mul_left _ (Nat.le_mul_of_pos_right _ (by decide))
    exact Nat.lt_of_le_of_lt bigger fine
  · have now : grid.toNat = 0 := by omega
    have next : (grid - 1).toNat = 0 := by omega
    have down : (-(grid - 1)).toNat = (-grid).toNat + 1 := by omega
    rw [now] at fine
    rw [next, down]
    simp only [Nat.pow_eq, Nat.pow_succ] at fine ⊢
    have bigger : 2 ^ (exponent - 2).toNat * 10 ^ (-grid).toNat ≤ 2 ^ (exponent - 2).toNat * (10 ^ (-grid).toNat * 10) :=
      Nat.mul_le_mul_left _ (Nat.le_mul_of_pos_right _ (by decide))
    omega

theorem fine_below (exponent grid : Int) (fine : Fine exponent grid) (steps : Nat) : Fine exponent (grid - steps) := by
  induction steps with
  | zero => rwa [Int.natCast_zero, Int.sub_zero]
  | succ steps ih =>
    have next := fine_step exponent _ ih
    rwa [show grid - ((steps + 1 : Nat) : Int) = grid - (steps : Int) - 1 by omega]

theorem fine_wider (exponent grid : Int) (fine : Fine exponent grid) (steps : Nat) : Fine (exponent + steps) grid := by
  have narrower : (2 - (exponent + steps)).toNat ≤ (2 - exponent).toNat := by omega
  have wider : (exponent - 2).toNat ≤ (exponent + steps - 2).toNat := by omega
  simp only [Fine, quarterUnit, Nat.pow_eq] at fine ⊢
  have first := Nat.mul_le_mul_right (10 ^ grid.toNat) (Nat.pow_le_pow_right (by decide : 0 < 2) narrower)
  have second := Nat.mul_le_mul_right (10 ^ (-grid).toNat) (Nat.pow_le_pow_right (by decide : 0 < 2) wider)
  omega

theorem on_grid_positive (x : Binary) (tie : Tie) (grid : Int) (point : Nat) (found : x.onGrid tie grid = some point) :
    0 < point := by
  unfold Binary.onGrid at found
  extract_lets unit value low high closed lower inLower inUpper twice middle at found
  by_cases below : inLower
  · by_cases above : inUpper
    · rw [if_pos ⟨below, above⟩] at found
      obtain rfl := Option.some.inj found
      have positive := below.1
      split
      · exact positive
      split
      · exact Nat.succ_pos lower
      · cases tie with
        | even =>
          rw [Tie.choose]
          split
          · exact positive
          · exact Nat.succ_pos lower
        | up => exact Nat.succ_pos lower
    · rw [if_neg (fun both => above both.2), if_pos below] at found
      exact Option.some.inj found ▸ below.1
  · rw [if_neg (fun both => below both.1), if_neg below] at found
    split at found
    · exact Option.some.inj found ▸ Nat.succ_pos lower
    · cases found

theorem on_grid_fine (x : Binary) (tie : Tie) (grid : Int) (fine : Fine x.exponent grid) :
    ∃ point, x.onGrid tie grid = some point := by
  unfold Binary.onGrid
  extract_lets unit value low high closed lower inLower inUpper twice middle
  have near : unit.2 < 2 * unit.1 := fine
  have above : inUpper := by
    have below : lower * unit.2 ≤ 4 * x.mantissa * unit.1 := Nat.div_mul_le_self value unit.2
    refine .inl ?_
    change (lower + 1) * unit.2 < (4 * x.mantissa + 2) * unit.1
    rw [Nat.add_mul, Nat.add_mul, Nat.one_mul]
    omega
  by_cases below : inLower
  · rw [if_pos ⟨below, above⟩]
    exact ⟨_, rfl⟩
  · rw [if_neg (fun both => below both.1), if_neg below, if_pos above]
    exact ⟨_, rfl⟩

theorem search_positive (x : Binary) (tie : Tie) (steps : Nat) (grid : Int) (fine : Fine x.exponent (grid - steps)) :
    0 < (x.search tie steps grid).coefficient := by
  induction steps generalizing grid with
  | zero =>
    rw [Int.natCast_zero, Int.sub_zero] at fine
    obtain ⟨point, found⟩ := on_grid_fine x tie grid fine
    rw [Binary.search, found]
    exact on_grid_positive x tie grid point found
  | succ steps ih =>
    rw [Binary.search]
    cases found : x.onGrid tie grid with
    | some point => exact on_grid_positive x tie grid point found
    | none =>
      apply ih
      rwa [show grid - 1 - (steps : Int) = grid - ((steps + 1 : Nat) : Int) by omega]

-- The last grid that is tried for a float with 53 bits; it is no finer for one with fewer.
def lastGrid (exponent : Int) : Int := (52 + exponent + 1) * 30103 / 100000 + 1 - 20

theorem last_grid_fine : ∀ row < 256, Fine (8 * Int.ofNat row - 1074) (lastGrid (8 * Int.ofNat row - 1074 + 7)) := by
  decide +kernel

theorem fine_last (exponent : Int) (lower : -1074 ≤ exponent) (upper : exponent ≤ 972) : Fine exponent (lastGrid exponent) := by
  have offset : Int.ofNat (exponent + 1074).toNat = exponent + 1074 := Int.toNat_of_nonneg (by omega)
  have split := Nat.div_add_mod (exponent + 1074).toNat 8
  have behind := Nat.mod_lt (exponent + 1074).toNat (by decide : 0 < 8)
  have table := last_grid_fine ((exponent + 1074).toNat / 8) (by omega)
  have wider := fine_wider _ _ table ((exponent + 1074).toNat % 8)
  have same : 8 * Int.ofNat ((exponent + 1074).toNat / 8) - 1074 + (((exponent + 1074).toNat % 8 : Nat) : Int) = exponent := by
    simp only [Int.ofNat_eq_natCast] at offset ⊢
    omega
  rw [same] at wider
  obtain ⟨steps, distance⟩ : ∃ steps : Nat,
      lastGrid (8 * Int.ofNat ((exponent + 1074).toNat / 8) - 1074 + 7) = lastGrid exponent + steps := by
    refine Int.exists_add_of_le ?_
    simp only [lastGrid, Int.ofNat_eq_natCast] at same ⊢
    omega
  rw [distance] at wider
  have finer := fine_below exponent _ wider steps
  rwa [Int.add_sub_cancel] at finer

theorem shortest_positive (x : Binary) (tie : Tie) (present : x.mantissa ≠ 0) (narrow : Nat.log2 x.mantissa ≤ 52)
    (lower : -1074 ≤ x.exponent) (upper : x.exponent ≤ 972) : 0 < (x.shortest tie).coefficient := by
  rw [Binary.shortest, if_neg present]
  apply search_positive
  obtain ⟨steps, distance⟩ : ∃ steps : Nat, lastGrid x.exponent = x.ceiling - 20 + steps := by
    refine Int.exists_add_of_le ?_
    simp only [Binary.ceiling, lastGrid, Int.ofNat_eq_natCast]
    omega
  have finer := fine_below x.exponent _ (distance ▸ fine_last x.exponent lower upper) steps
  rwa [Int.add_sub_cancel] at finer

theorem float_shortest_positive (x : Float) (tie : Tie) (present : (Binary.ofFloat x).mantissa ≠ 0) :
    0 < ((Binary.ofFloat x).shortest tie).coefficient := by
  have fraction : x.toBits.toNat % 2 ^ 52 < 2 ^ 52 := Nat.mod_lt _ (by decide)
  have biased : x.toBits.toNat / 2 ^ 52 % 2 ^ 11 < 2 ^ 11 := Nat.mod_lt _ (by decide)
  have bounds : (Binary.ofFloat x).mantissa < 2 ^ 53 ∧ -1074 ≤ (Binary.ofFloat x).exponent ∧
      (Binary.ofFloat x).exponent ≤ 972 := by
    simp only [Binary.ofFloat, Nat.pow_eq]
    split
    · exact ⟨Nat.lt_trans fraction (by decide), Int.le_refl _, Int.le_of_lt (by decide : (-1074 : Int) < 972)⟩
    · refine ⟨?_, ?_, ?_⟩ <;> simp only [Int.ofNat_eq_natCast] <;> omega
  have narrow : Nat.log2 (Binary.ofFloat x).mantissa ≤ 52 := Nat.le_of_lt_succ ((Nat.log2_lt present).mpr bounds.1)
  exact shortest_positive _ tie present narrow bounds.2.1 bounds.2.2

end NodeProbe.Decimal
