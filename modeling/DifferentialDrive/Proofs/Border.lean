import DifferentialDrive.Proofs.Overlap
import Mathlib.Analysis.Convex.Segment

/-!
# Overlap with borders

A circle overlaps a border if it reaches an edge. The distance from a segment is that from its
nearest point (`segmentDistance_eq`). Along a line the square of the distance is a parabola, so the
nearest point of a segment is where the parabola has its vertex, or the end next to that. There is
only one such point: from which end a segment is looked at does not matter. The edges from corner to
corner leave nothing of a border out (`mem_border_iff`), and a circle overlaps it if and only if it
reaches a point of it (`Obstacle.intersects_border_iff`).
-/

namespace DifferentialDrive

open Scalar

/-! ## The nearest point of a segment -/

section

variable {K : Type} [Field K]

/-- The square of the distance between two points. -/
def squareDistance (p z : K × K) : K := (p.1 - z.1) ^ 2 + (p.2 - z.2) ^ 2

/-- The point at a share of the way from `a` to `b`. -/
def onWay (a b : K × K) (t : K) : K × K := (a.1 + t * (b.1 - a.1), a.2 + t * (b.2 - a.2))

/-- At which share of the way from `a` to `b` the line through them is nearest to `p`. -/
def vertex (p a b : K × K) : K :=
  ((p.1 - a.1) * (b.1 - a.1) + (p.2 - a.2) * (b.2 - a.2)) / squareDistance b a

/-- Along a line the square of the distance is a parabola. -/
theorem squareDistance_onWay {a b : K × K} (distinct : squareDistance b a ≠ 0) (p : K × K)
    (t : K) :
    squareDistance p (onWay a b t) = squareDistance p (onWay a b (vertex p a b)) +
      squareDistance b a * (vertex p a b - t) ^ 2 := by
  have product : vertex p a b * squareDistance b a =
      (p.1 - a.1) * (b.1 - a.1) + (p.2 - a.2) * (b.2 - a.2) := div_mul_cancel₀ _ distinct
  simp only [squareDistance, onWay] at *
  linear_combination (2 * (t - vertex p a b)) * product

variable [LinearOrder K]

/-- Far enough apart in one direction for the segment between the two to be no point. -/
def Apart (a b : K × K) : Prop := 1 / 10000 ≤ |b.1 - a.1| ∨ 1 / 10000 ≤ |b.2 - a.2|

/-- The point `n` of the segment between `a` and `b` is as near to `p` as any other. -/
structure Nearest (p a b n : K × K) : Prop where
  mem : n ∈ segment K a b
  le : ∀ z ∈ segment K a b, squareDistance p n ≤ squareDistance p z

variable {p a b n : K × K}

theorem Nearest.symm (near : Nearest p a b n) : Nearest p b a n := by
  obtain ⟨mem, le⟩ := near
  rw [segment_symm] at mem le
  exact ⟨mem, le⟩

/-- A segment is within reach as soon as its nearest point is. -/
theorem Nearest.within_iff (near : Nearest p a b n) {c : K} :
    squareDistance p n ≤ c ↔ ∃ z ∈ segment K a b, squareDistance p z ≤ c := by
  constructor
  · intro within
    exact ⟨n, near.mem, within⟩
  · rintro ⟨z, mem, within⟩
    exact (near.le z mem).trans within

theorem Apart.symm (apart : Apart a b) : Apart b a := by
  rwa [Apart, abs_sub_comm a.1, abs_sub_comm a.2]

variable [IsStrictOrderedRing K]

theorem squareDistance_nonneg (p z : K × K) : 0 ≤ squareDistance p z :=
  add_nonneg (sq_nonneg _) (sq_nonneg _)

theorem squareDistance_eq_zero_iff {p z : K × K} : squareDistance p z = 0 ↔ p = z := by
  rw [squareDistance, add_eq_zero_iff_of_nonneg (sq_nonneg _) (sq_nonneg _), sq_eq_zero_iff,
    sq_eq_zero_iff, sub_eq_zero, sub_eq_zero, Prod.ext_iff]

theorem Apart.squareDistance_ne_zero (apart : Apart a b) : squareDistance b a ≠ 0 := by
  rw [Ne, squareDistance_eq_zero_iff]
  rintro rfl
  norm_num [Apart] at apart

theorem mem_segment_iff {z : K × K} :
    z ∈ segment K a b ↔ ∃ t, (0 ≤ t ∧ t ≤ 1) ∧ onWay a b t = z := by
  rw [segment_eq_image']
  rfl

/-- No share of a way is nearer to a number than the number moved into the range of shares. -/
theorem abs_sub_clamped_le {s : K} (lower : 0 ≤ s) (upper : s ≤ 1) (t : K) :
    |t - max 0 (min 1 t)| ≤ |t - s| := by
  obtain below | positive := lt_or_ge t 0
  · rw [min_eq_right (by linarith), max_eq_left below.le, abs_of_neg (by linarith),
      abs_of_neg (by linarith)]
    linarith
  · obtain within | beyond := le_or_gt t 1
    · rw [min_eq_right within, max_eq_right positive, sub_self, abs_zero]
      exact abs_nonneg _
    · rw [min_eq_left beyond.le, max_eq_right zero_le_one, abs_of_pos (by linarith),
        abs_of_pos (by linarith)]
      linarith

/-- The share nearest to the vertex's leads to the nearest point. -/
theorem nearest_onWay (distinct : squareDistance b a ≠ 0) (p : K × K) :
    Nearest p a b (onWay a b (max 0 (min 1 (vertex p a b)))) := by
  refine ⟨mem_segment_iff.2 ⟨_, ⟨le_max_left _ _, max_le zero_le_one (min_le_left _ _)⟩, rfl⟩, ?_⟩
  intro z mem
  obtain ⟨s, ⟨lower, upper⟩, rfl⟩ := mem_segment_iff.1 mem
  -- on the parabola, what is nearer to the vertex lies lower
  rw [squareDistance_onWay distinct, squareDistance_onWay distinct p s]
  have closer := sq_le_sq.2 (abs_sub_clamped_le lower upper (vertex p a b))
  gcongr
  exact squareDistance_nonneg _ _

/-- Of two nearest points the one halfway between them would be nearer still. -/
theorem Nearest.unique {m : K × K} (hn : Nearest p a b n) (hm : Nearest p a b m) : n = m := by
  obtain ⟨s, ⟨s_nonneg, s_le⟩, rfl⟩ := mem_segment_iff.1 hn.mem
  obtain ⟨t, ⟨t_nonneg, t_le⟩, rfl⟩ := mem_segment_iff.1 hm.mem
  have halfway : onWay a b ((s + t) / 2) ∈ segment K a b :=
    mem_segment_iff.2 ⟨_, ⟨by linarith, by linarith⟩, rfl⟩
  have nearer : squareDistance p (onWay a b ((s + t) / 2)) =
      (squareDistance p (onWay a b s) + squareDistance p (onWay a b t)) / 2 -
        squareDistance (onWay a b s) (onWay a b t) / 4 := by
    simp only [squareDistance, onWay]
    ring
  have n_le := hn.le _ halfway
  have m_le := hm.le _ halfway
  have nonneg := squareDistance_nonneg (onWay a b s) (onWay a b t)
  exact squareDistance_eq_zero_iff.1 (by linarith)

/-! ## Borders -/

/-- The border of a rectangle: the points of it that are not inside. -/
def border (x y w h : K) : Set (K × K) :=
  Set.Icc (x, y) (x + w, y + h) \ Set.Ioo x (x + w) ×ˢ Set.Ioo y (y + h)

/-- In the real plane it is the boundary of the rectangle. -/
theorem border_eq_frontier (x y w h : ℝ) :
    border x y w h = frontier (Set.Icc (x, y) (x + w, y + h)) := by
  rw [isClosed_Icc.frontier_eq, border, ← Set.Icc_prod_Icc, interior_prod_eq, interior_Icc,
    interior_Icc]

/-- The sides of a rectangle, from corner to corner. -/
def sides (x y w h : K) : List ((K × K) × (K × K)) :=
  [((x, y), (x, y + h)), ((x, y + h), (x + w, y + h)), ((x + w, y + h), (x + w, y)),
    ((x + w, y), (x, y))]

theorem mem_upright {x y y' : K} (le : y ≤ y') {z : K × K} :
    z ∈ segment K (x, y) (x, y') ↔ z.1 = x ∧ y ≤ z.2 ∧ z.2 ≤ y' := by
  rw [← Prod.image_mk_segment_right, segment_eq_Icc le]
  constructor
  · rintro ⟨q, between, rfl⟩
    exact ⟨rfl, between⟩
  · rintro ⟨rfl, between⟩
    exact ⟨z.2, between, rfl⟩

theorem mem_level {x x' y : K} (le : x ≤ x') {z : K × K} :
    z ∈ segment K (x, y) (x', y) ↔ z.2 = y ∧ x ≤ z.1 ∧ z.1 ≤ x' := by
  rw [← Prod.image_mk_segment_left, segment_eq_Icc le]
  constructor
  · rintro ⟨p, between, rfl⟩
    exact ⟨rfl, between⟩
  · rintro ⟨rfl, between⟩
    exact ⟨z.1, between, rfl⟩

/-- The sides leave nothing of the border out, and nothing of them is inside. -/
theorem mem_border_iff {x y w h : K} (wide : 0 ≤ w) (high : 0 ≤ h) {z : K × K} :
    z ∈ border x y w h ↔ ∃ side ∈ sides x y w h, z ∈ segment K side.1 side.2 := by
  have right : x ≤ x + w := le_add_of_nonneg_right wide
  have top : y ≤ y + h := le_add_of_nonneg_right high
  simp only [sides, List.mem_cons, List.not_mem_nil, or_false, exists_eq_or_imp, exists_eq_left,
    segment_symm K (x + w, y + h) (x + w, y), segment_symm K (x + w, y) (x, y), mem_upright top,
    mem_level right, border, Set.mem_sdiff, Set.mem_Icc, Set.mem_prod, Set.mem_Ioo, Prod.le_def]
  constructor
  · rintro ⟨⟨⟨left_le, low_le⟩, le_right, le_top⟩, outside⟩
    obtain left | beyond_left := left_le.eq_or_lt
    · exact .inl ⟨left.symm, low_le, le_top⟩
    obtain top | below_top := le_top.eq_or_lt
    · exact .inr (.inl ⟨top, left_le, le_right⟩)
    obtain right | before_right := le_right.eq_or_lt
    · exact .inr (.inr (.inl ⟨right, low_le, le_top⟩))
    obtain low | above_low := low_le.eq_or_lt
    · exact .inr (.inr (.inr ⟨low.symm, left_le, le_right⟩))
    -- a point of the rectangle on none of its sides is inside
    exact absurd ⟨⟨beyond_left, before_right⟩, above_low, below_top⟩ outside
  · rintro (⟨on, first, last⟩ | ⟨on, first, last⟩ | ⟨on, first, last⟩ | ⟨on, first, last⟩) <;> grind

end

/-! ## Lengths -/

namespace Plane

variable {K : Type} [Field K] [LinearOrder K]

/-- A radius with which lengths compare as their squares do. -/
def Measures [Plane K] (r : K) : Prop := ∀ u v : K, hypot u v ≤ r ↔ u ^ 2 + v ^ 2 ≤ r ^ 2

/-- The lengths of the real plane compare so with every radius. -/
theorem measures_real {r : ℝ} (round : 0 ≤ r) : Measures r := fun _ _ =>
  Real.sqrt_le_iff.trans (and_iff_right round)

/-- Over the rationals, too, where few lengths are numbers, lengths can be given that compare so
with a radius. -/
theorem exists_measures [IsStrictOrderedRing K] (r : K) : ∃ _ : Plane K, Measures r := by
  refine ⟨⟨0, id, id, fun u v => if u ^ 2 + v ^ 2 ≤ r ^ 2 then r else r + 1⟩, fun u v => ?_⟩
  change (if u ^ 2 + v ^ 2 ≤ r ^ 2 then r else r + 1) ≤ r ↔ _
  split_ifs with within
  · exact iff_of_true le_rfl within
  · exact iff_of_false (not_le.2 (lt_add_one r)) within

end Plane

/-! ## Distances -/

section

variable {K : Type} [Field K] [LinearOrder K] [FloorRing K] [Plane K]

/-- The numbers that a corner is set by. -/
structure Corner.Is (c : Corner (Exact K)) (p : K × K) : Prop where
  x : c.1.toScalar = .ok ⟨p.1⟩
  y : c.2.toScalar = .ok ⟨p.2⟩

@[simp] theorem Exact.value_pointBelow : (pointBelow : Exact K).value = 1 / 10000 := by
  simp [pointBelow]

theorem Exact.clampUnit_eq (t : K) : clampUnit (⟨t⟩ : Exact K) = ⟨max 0 (min 1 t)⟩ :=
  Exact.ext (by simp [clampUnit])

/-- The square of a length, by its components. -/
theorem Quantity.exists_squareLength {dx dy : Quantity (Exact K)} {u v : K}
    (hdx : dx.toScalar = .ok ⟨u⟩) (hdy : dy.toScalar = .ok ⟨v⟩) :
    ∃ xx yy square, dx.mul dx = .ok xx ∧ dy.mul dy = .ok yy ∧ xx.add yy = .ok square ∧
      square.toScalar = .ok ⟨u ^ 2 + v ^ 2⟩ := by
  obtain ⟨xx, hxx, xx_eq⟩ := exists_mul hdx hdx
  obtain ⟨yy, hyy, yy_eq⟩ := exists_mul hdy hdy
  obtain ⟨square, hsquare, square_eq⟩ := exists_add xx_eq yy_eq
  refine ⟨xx, yy, square, hxx, hyy, hsquare, square_eq.trans (congrArg _ (Exact.ext ?_))⟩
  simp [sq]

variable [IsStrictOrderedRing K] {a b : Corner (Exact K)} {s e : K × K}

/-- The distance from a segment that is no point is that from its nearest point. -/
theorem segmentDistance_eq (ha : a.Is s) (hb : b.Is e) (apart : Apart s e) (px py : Exact K) :
    ∃ n, Nearest (px.value, py.value) s e n ∧
      segmentDistance px py a b = .ok ⟨Plane.hypot (px.value - n.1) (py.value - n.2)⟩ := by
  obtain ⟨dx, hdx, dx_eq⟩ : ∃ dx, b.1.sub a.1 = .ok dx ∧ dx.toScalar = .ok ⟨e.1 - s.1⟩ :=
    Quantity.exists_sub hb.x ha.x
  obtain ⟨dy, hdy, dy_eq⟩ : ∃ dy, b.2.sub a.2 = .ok dy ∧ dy.toScalar = .ok ⟨e.2 - s.2⟩ :=
    Quantity.exists_sub hb.y ha.y
  obtain ⟨xx, yy, square, hxx, hyy, hsquare, square_eq⟩ := Quantity.exists_squareLength dx_eq dy_eq
  have share : (Quantity.scalar ((px - ⟨s.1⟩) * ⟨e.1 - s.1⟩ + (py - ⟨s.2⟩) * ⟨e.2 - s.2⟩)).div
      square = .ok ⟨vertex (px.value, py.value) s e⟩ :=
    Quantity.div_eq rfl square_eq apart.squareDistance_ne_zero
  have noPoint : ¬ (Scalar.abs (⟨e.1 - s.1⟩ : Exact K) < pointBelow ∧
      Scalar.abs (⟨e.2 - s.2⟩ : Exact K) < pointBelow) := by
    simpa only [not_and_or, Exact.lt_iff, Exact.value_abs, Exact.value_pointBelow, not_lt]
  refine ⟨_, nearest_onWay apart.squareDistance_ne_zero _, ?_⟩
  simp only [segmentDistance, hdx, hdy, hxx, hyy, hsquare, dx_eq, dy_eq, ha.x, ha.y, share,
    Exact.clampUnit_eq, Quantity.isBelow_eq (Quantity.abs_toScalar dx_eq),
    Quantity.isBelow_eq (Quantity.abs_toScalar dy_eq), bind, Except.bind, pure, Except.pure,
    Bool.and_eq_true, decide_eq_true_iff, if_neg noPoint]
  rfl

/-- A segment is equally far whichever of its ends comes first. -/
theorem segmentDistance_comm (ha : a.Is s) (hb : b.Is e) (apart : Apart s e) (px py : Exact K) :
    segmentDistance px py b a = segmentDistance px py a b := by
  obtain ⟨n, near, forth⟩ := segmentDistance_eq ha hb apart px py
  obtain ⟨m, near', back⟩ := segmentDistance_eq hb ha apart.symm px py
  rw [forth, back, near'.symm.unique near]

end

/-! ## Edges -/

namespace Obstacle

variable {K : Type} [Field K] [LinearOrder K] [FloorRing K] [Plane K]

/-- The ends that an edge is set by, far enough apart for it to be no point. -/
structure IsEdge (edge : Corner (Exact K) × Corner (Exact K)) (side : (K × K) × (K × K)) :
    Prop where
  first : edge.1.Is side.1
  second : edge.2.Is side.2
  apart : Apart side.1 side.2

variable {o : Obstacle (Exact K)} {x y w h r : Exact K} {radius : Quantity (Exact K)}

/-- The edges of a rectangle are its sides. -/
theorem exists_corners (set : o.Is x y w h) (wide : 1 / 10000 ≤ w.value)
    (high : 1 / 10000 ≤ h.value) :
    ∃ corners, o.corners = .ok corners ∧
      List.Forall₂ IsEdge (edges corners) (sides x.value y.value w.value h.value) := by
  obtain ⟨top, htop, top_eq⟩ := Quantity.exists_add set.y set.height
  obtain ⟨right, hright, right_eq⟩ := Quantity.exists_add set.x set.width
  have across := wide.trans (le_abs_self _)
  have along := high.trans (le_abs_self _)
  refine ⟨[(o.x, o.y), (o.x, top), (right, top), (right, o.y)], ?_, ?_⟩
  · simp only [corners, htop, hright, bind, Except.bind, pure, Except.pure]
  refine .cons ⟨⟨set.x, set.y⟩, ⟨set.x, top_eq⟩, .inr ?_⟩ <|
    .cons ⟨⟨set.x, top_eq⟩, ⟨right_eq, top_eq⟩, .inl ?_⟩ <|
    .cons ⟨⟨right_eq, top_eq⟩, ⟨right_eq, set.y⟩, .inr ?_⟩ <|
    .cons ⟨⟨right_eq, set.y⟩, ⟨set.x, set.y⟩, .inl ?_⟩ .nil
  · simpa using along
  · simpa using across
  · simpa [abs_sub_comm] using along
  · simpa [abs_sub_comm] using across

variable [IsStrictOrderedRing K]

/-- A circle meets edges if and only if a point of one is within it. -/
theorem meetsEdge_iff {edges : List (Corner (Exact K) × Corner (Exact K))}
    {sides : List ((K × K) × (K × K))} (hr : radius.toScalar = .ok r)
    (measures : Plane.Measures r.value) (set : List.Forall₂ IsEdge edges sides) (cx cy : Exact K) :
    ∃ hit, meetsEdge cx cy radius edges = .ok hit ∧ (hit = true ↔
      ∃ side ∈ sides, ∃ z ∈ segment K side.1 side.2,
        squareDistance (cx.value, cy.value) z ≤ r.value ^ 2) := by
  induction set with
  | nil => exact ⟨false, rfl, by simp⟩
  | @cons edge side edges sides set _ ih =>
    obtain ⟨later, hlater, later_iff⟩ := ih
    obtain ⟨n, near, distance⟩ := segmentDistance_eq set.first set.second set.apart cx cy
    have within : Plane.hypot (cx.value - n.1) (cy.value - n.2) ≤ r.value ↔
        ∃ z ∈ segment K side.1 side.2, squareDistance (cx.value, cy.value) z ≤ r.value ^ 2 :=
      (measures _ _).trans near.within_iff
    simp only [meetsEdge, distance, Quantity.reaches_eq hr, hlater, bind, Except.bind, pure,
      Except.pure, Exact.le_iff, decide_eq_true_iff, List.mem_cons, exists_eq_or_imp, ← within]
    split_ifs with reached
    · exact ⟨true, rfl, by simp [reached]⟩
    · exact ⟨later, rfl, by simpa [reached] using later_iff⟩

/-- A circle meets the border of a rectangle if and only if a point of the border is within it. -/
theorem meetsBorder_iff (set : o.Is x y w h) (hr : radius.toScalar = .ok r)
    (wide : 1 / 10000 ≤ w.value) (high : 1 / 10000 ≤ h.value)
    (measures : Plane.Measures r.value) (cx cy : Exact K) :
    ∃ hit, o.meetsBorder cx cy radius = .ok hit ∧ (hit = true ↔
      ∃ z ∈ border x.value y.value w.value h.value,
        squareDistance (cx.value, cy.value) z ≤ r.value ^ 2) := by
  obtain ⟨corners, hcorners, edges_set⟩ := exists_corners set wide high
  obtain ⟨hit, found, hit_iff⟩ := meetsEdge_iff hr measures edges_set cx cy
  have tiny : (0 : K) ≤ 1 / 10000 := by norm_num
  refine ⟨hit, ?_, hit_iff.trans ?_⟩
  · rw [meetsBorder, hcorners]
    exact found
  simp only [mem_border_iff (tiny.trans wide) (tiny.trans high)]
  constructor
  · rintro ⟨side, mem, z, on, within⟩
    exact ⟨z, ⟨side, mem, on⟩, within⟩
  · rintro ⟨z, ⟨side, mem, on⟩, within⟩
    exact ⟨side, mem, z, on, within⟩

/-- The border of a rectangle overlaps a circle if and only if a point of it is within the circle,
and the distance from a segment is that from its nearest point, whichever of its ends comes first.
Left out are sides and segments so short that they count as points. Any ordered field will do whose
lengths compare with the radius as their squares do, the rationals as well as the reals. -/
theorem intersects_border_iff :
    (∀ (o : Obstacle (Exact K)) (x y w h r : Exact K) (radius : Quantity (Exact K))
      (cx cy : Exact K), o.Is x y w h → o.filled = false → radius.toScalar = .ok r →
      1 / 10000 ≤ w.value → 1 / 10000 ≤ h.value → Plane.Measures r.value →
      ∃ hit, o.intersects cx cy radius = .ok hit ∧ (hit = true ↔
        ∃ z ∈ border x.value y.value w.value h.value,
          squareDistance (cx.value, cy.value) z ≤ r.value ^ 2)) ∧
    ∀ (a b : Corner (Exact K)) (s e : K × K) (px py : Exact K), a.Is s → b.Is e →
      Apart s e →
      ∃ n, Nearest (px.value, py.value) s e n ∧
        segmentDistance px py a b = .ok ⟨Plane.hypot (px.value - n.1) (py.value - n.2)⟩ ∧
        segmentDistance px py b a = .ok ⟨Plane.hypot (px.value - n.1) (py.value - n.2)⟩ := by
  constructor
  · intro o x y w h r radius cx cy set unfilled hr wide high measures
    rw [intersects, unfilled]
    exact meetsBorder_iff set hr wide high measures cx cy
  · intro a b s e px py ha hb apart
    obtain ⟨n, near, distance⟩ := segmentDistance_eq ha hb apart px py
    exact ⟨n, near, distance, (segmentDistance_comm ha hb apart px py).trans distance⟩

/-- A circle inside a box may miss the border, and a point beyond the end of a side is as far from
the side as from its end. -/
theorem intersects_border_iff_inside :
    (⟨.whole 1000, .whole 1000, .whole 400, .whole 400, false⟩ : Obstacle (Exact ℝ)).intersects
        ⟨1200⟩ ⟨1200⟩ (.whole 100) = .ok false ∧
      segmentDistance (⟨1003⟩ : Exact ℝ) ⟨1404⟩ (.whole 1000, .whole 1000)
        (.whole 1000, .whole 1400) = .ok ⟨5⟩ := by
  have set : Is (⟨.whole 1000, .whole 1000, .whole 400, .whole 400, false⟩ : Obstacle (Exact ℝ))
      (ofInt 1000) (ofInt 1000) (ofInt 400) (ofInt 400) := ⟨rfl, rfl, rfl, rfl⟩
  constructor
  · obtain ⟨hit, found, hit_iff⟩ := intersects_border_iff.1 _ _ _ _ _ (ofInt 100) (.whole 100)
      ⟨1200⟩ ⟨1200⟩ set rfl rfl (by norm_num) (by norm_num) (Plane.measures_real (by norm_num))
    have missed : ¬ hit = true := by
      rw [hit_iff]
      rintro ⟨z, ⟨-, outside⟩, within⟩
      have near : (1200 - z.1) ^ 2 + (1200 - z.2) ^ 2 ≤ 100 ^ 2 := by
        simpa [squareDistance] using within
      have across : |1200 - z.1| ≤ 100 :=
        abs_le_of_sq_le_sq (by linarith [sq_nonneg (1200 - z.2)]) (by norm_num)
      have along : |1200 - z.2| ≤ 100 :=
        abs_le_of_sq_le_sq (by linarith [sq_nonneg (1200 - z.1)]) (by norm_num)
      rw [abs_le] at across along
      refine outside ⟨⟨?_, ?_⟩, ?_, ?_⟩ <;> norm_num <;> linarith
    rw [found, Bool.eq_false_of_not_eq_true missed]
  · obtain ⟨n, near, distance, -⟩ := intersects_border_iff.2 (.whole 1000, .whole 1000)
      (.whole 1000, .whole 1400) (1000, 1000) (1000, 1400) (⟨1003⟩ : Exact ℝ) ⟨1404⟩
      ⟨rfl, rfl⟩ ⟨rfl, rfl⟩ (.inr (by norm_num))
    obtain ⟨on, -, below⟩ := (mem_upright (by norm_num)).1 near.mem
    have le := near.le (1000, 1400) (right_mem_segment ℝ _ _)
    simp only [squareDistance, on] at le
    have above : 1400 ≤ n.2 := by nlinarith
    rw [distance, on, le_antisymm below above]
    have five : √((1003 - 1000) ^ 2 + (1404 - 1400) ^ 2 : ℝ) = 5 := by
      rw [Real.sqrt_eq_iff_mul_self_eq] <;> norm_num
    exact congrArg _ (Exact.ext five)

end Obstacle

end DifferentialDrive
