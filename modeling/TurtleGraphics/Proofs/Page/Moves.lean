import TurtleGraphics.Execution
import TurtleGraphics.Proofs.Number.Rounding
import TurtleGraphics.Proofs.Turtle.Stride

/-! # The turtle of a page

The script of a page moves a turtle of its own, with sums and remainders of doubles and with the
rounding of its language. It goes where the turtle of the interpreter goes, but for the moves of
which a part along one axis comes to a number that the two round differently.
-/

namespace TurtleGraphics

/-! ## The functions of the script

Its variables `head`, `pendown`, `paper` and `ink` are a turtle. All integers in it are doubles. -/

namespace Page

/-- `Math.round` of a finite double: the greatest integer that is not above the exact sum with one
    half. -/
def round (x : Float) : Except NumberFault Int :=
  return (← Binary.ofFloat x).nearestUp

/-- `calcOffset`. -/
def calcOffset (trigonometry : Trigonometry) : Stride := fun angle step => do
  let direction ← radians angle
  let length ← Double.ofInt step
  let dx ← round (length * trigonometry.cos direction)
  let dy ← round (length * trigonometry.sin direction)
  return (dx, dy)

/-- `forward`, with the line that it draws if the pen is down. -/
def forward (trigonometry : Trigonometry) (turtle : Turtle) (step : Int) :
    Except NumberFault (Turtle × Option DrawCall) := do
  let (dx, dy) ← calcOffset trigonometry turtle.angle step
  let x ← Double.wholeOfInt (turtle.x + dx)
  let y ← Double.wholeOfInt (turtle.y + dy)
  return ({ turtle with x, y },
    if turtle.penDown then some (.line ⟨turtle.x, turtle.y, x, y⟩ turtle.ink) else none)

/-- `back`. -/
def back (trigonometry : Trigonometry) (turtle : Turtle) (step : Int) :
    Except NumberFault (Turtle × Option DrawCall) :=
  forward trigonometry turtle (-step)

/-- `turn`, with the remainders on the side of zero of what is divided. -/
def turn (turtle : Turtle) (value : Int) : Except NumberFault (Turtle × Option DrawCall) := do
  let turned ← Double.wholeOfInt (turtle.angle + value)
  let positive ← Double.wholeOfInt (Int.tmod turned 360 + 360)
  return ({ turtle with angle := Int.tmod positive 360 }, none)

/-- `left`. -/
def left (turtle : Turtle) (value : Int) : Except NumberFault (Turtle × Option DrawCall) :=
  turn turtle value

/-- `right`. -/
def right (turtle : Turtle) (value : Int) : Except NumberFault (Turtle × Option DrawCall) :=
  turn turtle (-value)

/-- `home`, with the clearing of the canvas. -/
def home (settings : TurtleSettings) (turtle : Turtle) : Turtle × Option DrawCall :=
  ({ turtle with x := settings.homeX, y := settings.homeY, angle := 0, penDown := false },
    some (.clear turtle.paper))

end Page

/-- The exact values of the parts of a move along both axes, before they are rounded. -/
def Trigonometry.parts (trigonometry : Trigonometry) (angle step : Int) :
    Except NumberFault (Binary × Binary) := do
  let direction ← radians angle
  let length ← Double.ofInt step
  return (← Binary.ofFloat (length * trigonometry.cos direction),
    ← Binary.ofFloat (length * trigonometry.sin direction))

open Double

variable {trigonometry : Trigonometry} {turtle : Turtle} {n : Int}

/-- A part of a move along one axis: a number of 53 bits with some of them behind the point. -/
structure Binary.Part (b : Binary) : Prop where
  significand : b.significand.natAbs < 2 ^ 53
  exponent : b.exponent < 0

/-- From the parts of a move, the one turtle settles on a pixel and the other one goes to the
    nearest. -/
theorem Trigonometry.Bounded.parts (h : trigonometry.Bounded) {angle : Int}
    (hangle : angle.natAbs < 360) (hn : n.natAbs ≤ maxNumber) :
    ∃ dx dy, trigonometry.parts angle n = .ok (dx, dy) ∧ dx.Part ∧ dy.Part ∧
      trigonometry.stride angle n = .ok (dx.settled, dy.settled) ∧
      Page.calcOffset trigonometry angle n = .ok (dx.nearestUp, dy.nearestUp) := by
  obtain ⟨direction, hdirection, hfinite⟩ :=
    radians_of_lt (lt_headingLimit (Nat.lt_trans hangle (by decide)))
  have length : IsLight ((31 : Nat) - 50) (Float.ofInt n) :=
    isLight_ofInt_short (Nat.lt_of_le_of_lt hn (by decide)) (by decide) (by decide)
  obtain ⟨hcos, hcos'⟩ := h.cos direction hfinite
  obtain ⟨hsin, hsin'⟩ := h.sin direction hfinite
  obtain ⟨dx, hdx, wide, inner, settled⟩ :=
    (length.mul (isLight_of_le hcos hcos') (by decide) (by decide)).settles (by decide)
  obtain ⟨dy, hdy, wide', inner', settled'⟩ :=
    (length.mul (isLight_of_le hsin hsin') (by decide) (by decide)).settles (by decide)
  refine ⟨dx, dy, ?_, ⟨wide, inner⟩, ⟨wide', inner'⟩, ?_, ?_⟩
  · simp only [Trigonometry.parts, hdirection, ofInt_of_light length, bind, Except.bind, hdx,
      hdy, pure, Except.pure]
  · simp only [Trigonometry.stride, hdirection, ofInt_of_light length, bind, Except.bind, settled,
      settled', pure, Except.pure]
  · simp only [Page.calcOffset, Page.round, hdirection, ofInt_of_light length, bind, Except.bind,
      hdx, hdy, pure, Except.pure]

namespace Page

theorem forward_eq_move {dx dy : Int}
    (hoffset : calcOffset trigonometry turtle.angle n = .ok (dx, dy))
    (hx : (turtle.x + dx).natAbs < 2 ^ 53) (hy : (turtle.y + dy).natAbs < 2 ^ 53) :
    forward trigonometry turtle n = turtle.move (calcOffset trigonometry) n := by
  simp only [forward, Turtle.move, hoffset, wholeOfInt_of_lt hx, wholeOfInt_of_lt hy, bind,
    Except.bind, pure, Except.pure]
  rfl

/-- What the two turtles leave of one move: all but the pixel is the same, and that is at most the
    next one. -/
structure Near (page own : Turtle × Option DrawCall) : Prop where
  x : (own.1.x - page.1.x).natAbs ≤ 1
  y : (own.1.y - page.1.y).natAbs ≤ 1
  rest : { own.1 with x := page.1.x, y := page.1.y } = page.1

/-- A move is the same on the page unless one of its parts is contested. -/
theorem forward_agrees (hbounded : trigonometry.Bounded) (hx : turtle.x.natAbs < 2 ^ 52)
    (hy : turtle.y.natAbs < 2 ^ 52) (hangle : turtle.angle.natAbs < 360)
    (hn : n.natAbs ≤ maxNumber) :
    ∃ dx dy page own, trigonometry.parts turtle.angle n = .ok (dx, dy) ∧
      forward trigonometry turtle n = .ok page ∧ turtle.move trigonometry.stride n = .ok own ∧
      Near page own ∧
      (page = own ↔ ¬ dx.Contested ∧ ¬ dy.Contested) := by
  obtain ⟨dx, dy, hparts, partX, partY, hstride, hoffset⟩ := hbounded.parts hangle hn
  have nearX := Binary.natAbs_nearestUp_le partX.significand partX.exponent
  have nearY := Binary.natAbs_nearestUp_le partY.significand partY.exponent
  have moved := forward_eq_move hoffset (by omega) (by omega)
  have onePixel := Binary.natAbs_settled_sub_le partX.exponent
  have onePixel' := Binary.natAbs_settled_sub_le partY.exponent
  refine ⟨dx, dy, _, _, hparts, moved.trans (by rw [Turtle.move, hoffset]), by
    rw [Turtle.move, hstride], ?_, ?_⟩
  · refine ⟨?_, ?_, rfl⟩
    · simp only [Turtle.moveBy]
      omega
    · simp only [Turtle.moveBy]
      omega
  · rw [← Binary.settled_eq_nearestUp_iff partX.exponent,
      ← Binary.settled_eq_nearestUp_iff partY.exponent]
    constructor
    · intro same
      have x := congrArg (·.1.x) same
      have y := congrArg (·.1.y) same
      simp only [Turtle.moveBy] at x y
      omega
    · rintro ⟨x, y⟩
      rw [x, y]

/-- Turns of up to 2 ^ 31 degrees are sums that doubles hold exactly, and two remainders towards
zero make one from zero up. -/
theorem turn_eq (hlow : 0 ≤ turtle.angle) (hhigh : turtle.angle < 360) (hn : n.natAbs ≤ maxNumber) :
    turn turtle n = (turtle.turn true n).map (·, none) := by
  have bound : maxNumber = 2147483647 := rfl
  have turned : wholeOfInt (turtle.angle + n) = .ok (turtle.angle + n) :=
    wholeOfInt_of_lt (by omega)
  have low := Int.lt_tmod_of_pos (turtle.angle + n) (show (0 : Int) < 360 by decide)
  have high := Int.tmod_lt_of_pos (turtle.angle + n) (show (0 : Int) < 360 by decide)
  have positive : wholeOfInt (Int.tmod (turtle.angle + n) 360 + 360) =
      .ok (Int.tmod (turtle.angle + n) 360 + 360) := wholeOfInt_of_lt (by omega)
  have same : Int.tmod (Int.tmod (turtle.angle + n) 360 + 360) 360 = (turtle.angle + n) % 360 := by
    have whole := Int.mul_tdiv_add_tmod (turtle.angle + n) 360
    rw [Int.tmod_eq_emod_of_nonneg (by omega)]
    omega
  simp only [turn, turned, positive, same, bind, Except.bind, pure, Except.pure]
  rfl

/-- Between whole positions the functions of the script do what the commands do: `home`, `left` and
`right` always, `forward` and `back` if neither part of the move is contested. Otherwise they lead
to a pixel beside the one of the command. -/
theorem moves_agree (hbounded : trigonometry.Bounded) {settings : Settings}
    (hnormalize : settings.engine.normalizeAngle = true) (hx : turtle.x.natAbs < 2 ^ 52)
    (hy : turtle.y.natAbs < 2 ^ 52) (hlow : 0 ≤ turtle.angle) (hhigh : turtle.angle < 360)
    (hn : n.natAbs ≤ maxNumber) :
    let obey := turtle.obey settings trigonometry.stride
    .ok (home settings.turtle turtle) = obey .home ∧ left turtle n = obey (.left n) ∧
      right turtle n = obey (.right n) ∧
      (∃ dx dy page own, trigonometry.parts turtle.angle n = .ok (dx, dy) ∧
        forward trigonometry turtle n = .ok page ∧ obey (.forward n) = .ok own ∧ Near page own ∧
        (page = own ↔ ¬ dx.Contested ∧ ¬ dy.Contested)) ∧
      ∃ dx dy page own, trigonometry.parts turtle.angle (-n) = .ok (dx, dy) ∧
        back trigonometry turtle n = .ok page ∧ obey (.back n) = .ok own ∧ Near page own ∧
        (page = own ↔ ¬ dx.Contested ∧ ¬ dy.Contested) := by
  have negated : (-n).natAbs ≤ maxNumber := by rwa [Int.natAbs_neg]
  refine ⟨rfl, ?_, ?_, forward_agrees hbounded hx hy (by omega) hn,
    forward_agrees hbounded hx hy (by omega) negated⟩
  · rw [left, turn_eq hlow hhigh hn, Turtle.obey, hnormalize]
    rfl
  · rw [right, turn_eq hlow hhigh negated, Turtle.obey, hnormalize]
    rfl

/-- A turtle that looks along the heading whose sine is the greatest double below one half. -/
def slanted : Turtle :=
  { x := 320, y := 240, angle := 30, penDown := true }

/-- Twice that sine is not contested. -/
theorem moves_agree_slanted :
    forward .sampled slanted 2 = slanted.obey {} Trigonometry.sampled.stride (.forward 2) ∧
      right slanted 90 = slanted.obey {} Trigonometry.sampled.stride (.right 90) := by
  have normalized : ({} : Settings).engine.normalizeAngle = true := rfl
  have agree {n : Int} (hn : n.natAbs ≤ maxNumber) :=
    moves_agree Trigonometry.sampled_bounded normalized
    (show slanted.x.natAbs < 2 ^ 52 by decide) (show slanted.y.natAbs < 2 ^ 52 by decide)
    (show 0 ≤ slanted.angle by decide) (show slanted.angle < 360 by decide) hn
  obtain ⟨-, -, -, forwards, -⟩ := agree (show (2 : Int).natAbs ≤ maxNumber by decide)
  obtain ⟨-, -, turns, -⟩ := agree (show (90 : Int).natAbs ≤ maxNumber by decide)
  obtain ⟨dx, dy, page, own, hparts, hpage, hown, -, same⟩ := forwards
  have parts : Trigonometry.sampled.parts slanted.angle 2 =
      .ok (⟨7800463371553963, -52⟩, ⟨2 ^ 53 - 1, -53⟩) := by decide +kernel
  cases parts.symm.trans hparts
  refine ⟨?_, turns⟩
  rw [hpage, hown, same.mpr (by decide)]

/-- The sine itself is contested: the page takes it for zero, and the interpreter for one. -/
theorem forward_slanted_contested :
    forward .sampled slanted 1 =
        .ok ({ slanted with x := 321, y := 240 }, some (.line ⟨320, 240, 321, 240⟩ .white)) ∧
      slanted.obey {} Trigonometry.sampled.stride (.forward 1) =
        .ok ({ slanted with x := 321, y := 241 }, some (.line ⟨320, 240, 321, 241⟩ .white)) := by
  decide +kernel

end Page

end TurtleGraphics
