import EnergyAudit.Proofs.Double.Parts
import EnergyAudit.Proofs.Json.RoundTrip

/-! # Finite doubles

A positive finite double less itself is zero, and zero divided by it is zero.  Zero, with either
sign, lies above nothing that is not negative, and of two finite doubles one is less than the other
or as great.  Doubles that are read back from their texts are finite, since others have no text. -/

namespace EnergyAudit.Double

open Float.Model UnpackedFloat

variable {x : Float}

theorem lt_iff (x y : Float) : x < y ↔ x.toModel.unpack.lt y.toModel.unpack = true :=
  decide_eq_true_iff (p := x.toModel < y.toModel)

theorem le_iff (x y : Float) : x ≤ y ↔ x.toModel.unpack.le y.toModel.unpack = true :=
  decide_eq_true_iff (p := x.toModel ≤ y.toModel)

theorem unpack_zero (sign : Sign) : (Float.Model.pack (.zero sign)).unpack = .zero sign := by
  cases sign <;> rfl

theorem zero_beq (sign : Sign) : (Float.ofModel (.pack (.zero sign)) == 0.0) = true := by
  cases sign <;> rfl

/-- A positive finite double is a positive whole number times a power of two. -/
theorem exists_unpack (positive : x > 0.0) (finite : x.isFinite = true) :
    ∃ mantissa exponent above,
      x.toModel.unpack = .finite .positive mantissa exponent above := by
  have greater : UnpackedFloat.lt (.zero .positive) x.toModel.unpack = true :=
    (lt_iff 0.0 x).mp positive
  have known : x.toModel.unpack.isFinite = true := finite
  cases form : x.toModel.unpack with
  | notANumber =>
      rw [form] at known
      exact nomatch known
  | infinity sign =>
      rw [form] at known
      exact nomatch known
  | zero sign =>
      rw [form] at greater
      exact nomatch greater
  | finite sign mantissa exponent above =>
      rw [form] at greater
      cases sign with
      | negative => exact nomatch greater
      | positive => exact ⟨mantissa, exponent, above, rfl⟩

theorem sub_self (positive : x > 0.0) (finite : x.isFinite = true) : x - x = 0.0 := by
  obtain ⟨mantissa, exponent, above, form⟩ := exists_unpack positive finite
  have difference : UnpackedFloat.sub Format.binary64 x.toModel.unpack x.toModel.unpack =
      .zero .positive := by
    rw [form]
    change UnpackedFloat.normalize _ ((_ : Int) - _) _ _ = _
    rw [Int.sub_self]
    rfl
  change Float.ofModel (Float.Model.pack (UnpackedFloat.sub _ _ _)) = _
  rw [difference]
  rfl

theorem zero_div (positive : x > 0.0) (finite : x.isFinite = true) : 0.0 / x = 0.0 := by
  obtain ⟨mantissa, exponent, above, form⟩ := exists_unpack positive finite
  change Float.ofModel
    (Float.Model.pack (UnpackedFloat.div _ (.zero .positive) x.toModel.unpack)) = _
  rw [form]
  rfl

theorem not_lt_zero (nonnegative : 0.0 ≤ x) (sign : Sign) :
    ¬ x < .ofModel (.pack (.zero sign)) := by
  have above : UnpackedFloat.le (.zero .positive) x.toModel.unpack = true :=
    (le_iff 0.0 x).mp nonnegative
  intro less
  have below : UnpackedFloat.lt x.toModel.unpack (Float.Model.pack (.zero sign)).unpack = true :=
    (lt_iff x _).mp less
  rw [unpack_zero] at below
  cases form : x.toModel.unpack with
  | notANumber =>
      rw [form] at below
      exact nomatch below
  | infinity s =>
      rw [form] at above below
      cases s <;> contradiction
  | zero s =>
      rw [form] at below
      exact nomatch below
  | finite s mantissa exponent positive =>
      rw [form] at above below
      cases s <;> contradiction

/-- A finite double is zero, or a positive whole number times a power of two. -/
theorem unpack_cases {x : Float} (finite : x.isFinite = true) :
    (∃ sign, x.toModel.unpack = .zero sign) ∨
      ∃ sign mantissa exponent above,
        x.toModel.unpack = .finite sign mantissa exponent above := by
  change x.toModel.unpack.isFinite = true at finite
  cases form : x.toModel.unpack with
  | notANumber =>
      rw [form] at finite
      contradiction
  | infinity sign =>
      rw [form] at finite
      contradiction
  | zero sign => exact .inl ⟨sign, rfl⟩
  | finite sign mantissa exponent above => exact .inr ⟨sign, mantissa, exponent, above, rfl⟩

theorem then_swap (e f : Int) (m n : Nat) :
    ((compare e f).then (compare m n)).swap = (compare f e).then (compare n m) := by
  rw [Ordering.swap_then, ← Std.OrientedOrd.eq_swap, ← Std.OrientedOrd.eq_swap]

theorem eq_lt_iff_not_isLE_swap (order : Ordering) :
    order = .lt ↔ ¬ order.swap.isLE = true := by
  cases order <;> decide

/-- Two finite doubles compare, and the other way round as the opposite. -/
theorem exists_compare {x y : Float} (finiteX : x.isFinite = true) (finiteY : y.isFinite = true) :
    ∃ order, UnpackedFloat.compare x.toModel.unpack y.toModel.unpack = some order ∧
      UnpackedFloat.compare y.toModel.unpack x.toModel.unpack = some order.swap := by
  rcases unpack_cases finiteX with ⟨s, formX⟩ | ⟨s, m, e, above, formX⟩ <;>
    rcases unpack_cases finiteY with ⟨t, formY⟩ | ⟨t, n, f, positive, formY⟩ <;>
      rw [formX, formY]
  · exact ⟨.eq, rfl, rfl⟩
  · cases t with
    | negative => exact ⟨.gt, rfl, rfl⟩
    | positive => exact ⟨.lt, rfl, rfl⟩
  · cases s with
    | negative => exact ⟨.lt, rfl, rfl⟩
    | positive => exact ⟨.gt, rfl, rfl⟩
  · cases s with
    | negative =>
      cases t with
      | negative => exact ⟨_, rfl, congrArg (some <| Ordering.swap ·) (then_swap e f m n).symm⟩
      | positive => exact ⟨.lt, rfl, rfl⟩
    | positive =>
      cases t with
      | negative => exact ⟨.gt, rfl, rfl⟩
      | positive => exact ⟨_, rfl, congrArg some (then_swap e f m n).symm⟩

/-- Of two finite doubles one is less, or as great as the other. -/
theorem lt_iff_not_le {x y : Float} (finiteX : x.isFinite = true) (finiteY : y.isFinite = true) :
    x < y ↔ ¬ y ≤ x := by
  obtain ⟨order, forward, backward⟩ := exists_compare finiteX finiteY
  rw [lt_iff, le_iff, UnpackedFloat.lt, UnpackedFloat.le, beq_iff_eq, forward, backward,
    Option.some.injEq, Option.any_some]
  exact eq_lt_iff_not_isLE_swap order

theorem isFinite_of_parts {negative : Bool} {mantissa : Nat} {exponent : Int}
    (parts : Decimal.parts x = .finite negative mantissa exponent) : x.isFinite = true := by
  change x.toModel.unpack.isFinite = true
  rw [parts_eq] at parts
  cases form : x.toModel.unpack with
  | notANumber =>
      rw [form] at parts
      contradiction
  | infinity sign =>
      rw [form] at parts
      contradiction
  | zero sign => rfl
  | finite sign mantissa exponent above => rfl

/-- Infinities and NaN have no text of their own. -/
theorem floatText_eq_null (infinite : x.isFinite = false) : Json.floatText x = "null".toList := by
  unfold Json.floatText Decimal.json?
  cases parts : Decimal.parts x with
  | nan => rfl
  | infinite negative => rfl
  | finite negative mantissa exponent =>
      rw [isFinite_of_parts parts] at infinite
      contradiction

theorem isFinite_of_readsBack (readsBack : Json.DoubleReadsBack x) : x.isFinite = true := by
  cases finite : x.isFinite with
  | true => rfl
  | false =>
      rw [Json.DoubleReadsBack, floatText_eq_null finite] at readsBack
      change some (Json.Token.null, []) = some (Json.Token.float x, []) at readsBack
      simp at readsBack

end EnergyAudit.Double
