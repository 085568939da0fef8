import Mathlib.Logic.Basic
import TurtleGraphics.Canvas

/-! # Pixels

Setting one pixel leaves all others alone. So a canvas on which several pixels are set has the new
color there, and is what it was everywhere else.
-/

namespace TurtleGraphics

/-- A canvas of the given size has a pixel in this column of this row. -/
def OnCanvas (width height : Nat) (x y : Int) : Prop :=
  0 ≤ x ∧ x < width ∧ 0 ≤ y ∧ y < height

instance (width height : Nat) (x y : Int) : Decidable (OnCanvas width height x y) :=
  inferInstanceAs (Decidable (_ ∧ _))

namespace Canvas

/-- There is a pixel in this column of this row. -/
def Has (canvas : Canvas) (x y : Int) : Prop :=
  OnCanvas canvas.width canvas.height x y

instance (canvas : Canvas) (x y : Int) : Decidable (canvas.Has x y) :=
  inferInstanceAs (Decidable (OnCanvas _ _ _ _))

def setAll (points : List (Int × Int)) (rgb : Rgb) (canvas : Canvas) : Canvas :=
  points.foldl (fun canvas (x, y) => canvas.set x y rgb) canvas

theorem pixel?_of_has {canvas : Canvas} {x y : Int} (h : canvas.Has x y) :
    canvas.pixel? x y = canvas.pixels[y.toNat * canvas.width + x.toNat]? :=
  if_pos h

theorem pixel?_of_not_has {canvas : Canvas} {x y : Int} (h : ¬canvas.Has x y) :
    canvas.pixel? x y = none :=
  if_neg h

theorem pixels_set {canvas : Canvas} {x y : Int} (h : canvas.Has x y) (rgb : Rgb) :
    (canvas.set x y rgb).pixels = canvas.pixels.setIfInBounds
      (y.toNat * canvas.width + x.toNat) rgb :=
  congrArg pixels (if_pos h)

theorem size_set (canvas : Canvas) (x y : Int) (rgb : Rgb) :
    (canvas.set x y rgb).width = canvas.width ∧ (canvas.set x y rgb).height = canvas.height := by
  unfold set
  split <;> exact ⟨rfl, rfl⟩

theorem size_setAll (points : List (Int × Int)) (rgb : Rgb) (canvas : Canvas) :
    (setAll points rgb canvas).width = canvas.width ∧
    (setAll points rgb canvas).height = canvas.height := by
  induction points generalizing canvas with
  | nil => exact ⟨rfl, rfl⟩
  | cons point points ih =>
      obtain ⟨width, height⟩ := canvas.size_set point.1 point.2 rgb
      obtain ⟨width', height'⟩ := ih (canvas.set point.1 point.2 rgb)
      exact ⟨width'.trans width, height'.trans height⟩

theorem has_set (canvas : Canvas) (a b x y : Int) (rgb : Rgb) :
    (canvas.set a b rgb).Has x y ↔ canvas.Has x y := by
  obtain ⟨width, height⟩ := canvas.size_set a b rgb
  rw [Has, Has, width, height]

theorem place_inj {width a b x y : Nat} (ha : a < width) (hx : x < width) :
    b * width + a = y * width + x ↔ x = a ∧ y = b := by
  constructor
  · intro h
    have columns := congrArg (· % width) h
    simp only [Nat.mul_add_mod', Nat.mod_eq_of_lt ha, Nat.mod_eq_of_lt hx] at columns
    subst columns
    exact ⟨rfl, (Nat.eq_of_mul_eq_mul_right (Nat.zero_lt_of_lt ha) (Nat.add_right_cancel h)).symm⟩
  · rintro ⟨rfl, rfl⟩
    rfl

theorem place_lt {width height a b : Nat} (ha : a < width) (hb : b < height) :
    b * width + a < width * height :=
  calc b * width + a
    _ < (b + 1) * width := by rw [Nat.succ_mul]; exact Nat.add_lt_add_left ha _
    _ ≤ height * width := Nat.mul_le_mul_right _ hb
    _ = width * height := Nat.mul_comm _ _

theorem pixel?_set (canvas : Canvas) (a b x y : Int) (rgb : Rgb) :
    (canvas.set a b rgb).pixel? x y = if canvas.Has a b ∧ x = a ∧ y = b then some rgb
      else canvas.pixel? x y := by
  by_cases hset : canvas.Has a b
  · by_cases hx : canvas.Has x y
    · obtain ⟨width, -⟩ := canvas.size_set a b rgb
      rw [pixel?_of_has ((canvas.has_set a b x y rgb).mpr hx), pixels_set hset, width,
        pixel?_of_has hx, Array.getElem?_setIfInBounds]
      obtain ⟨ha, ha', hb, hb'⟩ := hset
      have inside : b.toNat * canvas.width + a.toNat < canvas.pixels.size := by
        rw [canvas.size_pixels]
        exact place_lt (by omega) (by omega)
      obtain ⟨hx₀, hx', hy₀, hy'⟩ := hx
      have place := place_inj (b := b.toNat) (y := y.toNat) (show a.toNat < canvas.width by omega)
        (show x.toNat < canvas.width by omega)
      rw [if_pos inside]
      refine if_congr (place.trans ?_) rfl rfl
      unfold Has OnCanvas
      omega
    · have off : ¬(canvas.Has a b ∧ x = a ∧ y = b) := by
        rintro ⟨-, rfl, rfl⟩
        exact hx hset
      rw [pixel?_of_not_has (mt (canvas.has_set a b x y rgb).mp hx), if_neg off,
        pixel?_of_not_has hx]
  · have same : canvas.set a b rgb = canvas := if_neg hset
    rw [same, if_neg fun h => hset h.1]

/-- Setting several pixels sets those of them that there are, and nothing else. -/
theorem pixel?_setAll (points : List (Int × Int)) (rgb : Rgb) (canvas : Canvas) (x y : Int) :
    (setAll points rgb canvas).pixel? x y =
      if canvas.Has x y ∧ (x, y) ∈ points then some rgb else canvas.pixel? x y := by
  induction points generalizing canvas with
  | nil => rw [if_neg (by simp)]; rfl
  | cons point points ih =>
      obtain ⟨a, b⟩ := point
      change (setAll points rgb (canvas.set a b rgb)).pixel? x y = _
      rw [ih, pixel?_set]
      simp only [has_set, List.mem_cons, Prod.mk.injEq]
      by_cases here : x = a ∧ y = b
      · obtain ⟨rfl, rfl⟩ := here
        by_cases hx : canvas.Has x y
        · simp [hx]
        · simp [hx]
      · simp [here]

end Canvas

end TurtleGraphics
