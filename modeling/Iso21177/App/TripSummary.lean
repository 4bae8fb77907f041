import Iso21177.Lib.Thin

/-!
# The Route of a Trip

The app keeps the positions of a trip for the map. `addPosition` puts a position
behind the others if it is more than ten metres away from the last one, and drops
positions from the front as long as there are more than 10000.

The route is therefore the end of a list that was thinned as if nothing were ever
dropped (`tripRoute_eq`): the position a new one is compared with is at the end
that is not trimmed.

The distance, the cost and the currency of a trip have no part in this and are
left out. How far two points are apart is up to the map library.

## Main definitions

* `TripSummary`, `addPosition`, `clearRoute`: The trip.
* `TripCall`, `tripAfter`: Calls, and a new trip after some of them.
* `pointsSince`: The positions since the route was last cleared.

## Theorems

* `trimRoute_eq`: The loop leaves the last points.
* `tripRoute_addPosition`: What one call does to the route.
* `tripRoute_eq`: The route after any calls.
* `tripRoute_thinned`: The route is a bounded thinning of the positions.
-/

namespace Iso21177

/-- The limit on the points of a route. -/
def maxRoute : Nat := 10000

/-- `TripSummary`. -/
structure TripSummary (Point : Type) where
  tripRoute : List Point

/-- The calls that change the route. -/
inductive TripCall (Pos : Type)
  | addPosition (currentPosition : Pos)
  | clearRoute

/-- The loop that removes the first point while there are too many. -/
def trimRoute {Point : Type} : List Point → List Point
  | [] => []
  | p :: ps => if maxRoute < (p :: ps).length then trimRoute ps else p :: ps

section

variable {Pos Point : Type} (far : Point → Point → Bool) (geoPoint : Pos → Point)

/-- `addPosition`. -/
def TripSummary.addPosition (currentPosition : Pos) (t : TripSummary Point) : TripSummary Point :=
  let pos := geoPoint currentPosition
  match t.tripRoute.getLast? with
  | some prevPos =>
    ⟨trimRoute (if far prevPos pos then t.tripRoute ++ [pos] else t.tripRoute)⟩
  | none => ⟨t.tripRoute ++ [pos]⟩

/-- `clearRoute`. -/
def TripSummary.clearRoute (_ : TripSummary Point) : TripSummary Point := ⟨[]⟩

/-- A new trip after some calls. -/
def tripAfter (calls : List (TripCall Pos)) : TripSummary Point :=
  calls.foldl (fun t call =>
    match call with
    | .addPosition currentPosition => t.addPosition far geoPoint currentPosition
    | .clearRoute => t.clearRoute) ⟨[]⟩

/-- The points of the positions since the route was last cleared. -/
def pointsSince (calls : List (TripCall Pos)) : List Point :=
  calls.foldl (fun ps call =>
    match call with
    | .addPosition currentPosition => ps ++ [geoPoint currentPosition]
    | .clearRoute => []) []

/-- The loop leaves the last points. -/
theorem trimRoute_eq (l : List Point) : trimRoute l = l.rtake maxRoute := by
  induction l with
  | nil => rw [List.rtake_nil, trimRoute]
  | cons p ps ih =>
      rw [trimRoute]
      by_cases hlong : maxRoute < (p :: ps).length
      · rw [if_pos hlong, ih, List.rtake, List.rtake]
        rw [List.length_cons] at hlong ⊢
        rw [Nat.succ_sub (by omega), List.drop_succ_cons]
      · rw [if_neg hlong, rtake_of_length_le (Nat.le_of_not_lt hlong)]

/-- A route that is the end of some list becomes the end of that list with the new point
    behind it, if it is kept. -/
theorem tripRoute_addPosition {t : TripSummary Point} {l : List Point}
    (h : t.tripRoute = l.rtake maxRoute) (currentPosition : Pos) :
    (t.addPosition far geoPoint currentPosition).tripRoute =
      (if keeps far l (geoPoint currentPosition) then l ++ [geoPoint currentPosition]
        else l).rtake maxRoute := by
  rw [← keeps_rtake far (show 0 < maxRoute by decide) l, ← h]
  unfold TripSummary.addPosition keeps
  cases hlast : t.tripRoute.getLast? with
  | none =>
      -- Nothing is kept yet, so the loop is not needed.
      rw [List.getLast?_eq_none_iff] at hlast
      rw [hlast] at h
      rw [rtake_eq_nil (by decide) h.symm, hlast, if_pos rfl,
        rtake_of_length_le (by rw [List.nil_append, List.length_singleton]; decide)]
  | some q =>
      simp only
      split
      · rw [trimRoute_eq, h, rtake_append_singleton]
      · rw [trimRoute_eq, h, rtake_rtake, Nat.min_self]

/-- The route after any calls. -/
theorem tripRoute_eq (calls : List (TripCall Pos)) :
    (tripAfter far geoPoint calls).tripRoute =
      (thin far (pointsSince geoPoint calls)).rtake maxRoute := by
  induction calls using List.reverseRecOn with
  | nil => rw [pointsSince, List.foldl_nil, thin, List.rtake_nil]; rfl
  | append_singleton calls call ih =>
      rw [tripAfter, pointsSince, List.foldl_append, List.foldl_append]
      cases call with
      | addPosition currentPosition =>
          exact (tripRoute_addPosition far geoPoint ih currentPosition).trans
            (by rw [← thin_append_singleton]; rfl)
      | clearRoute => exact (List.rtake_nil maxRoute).symm

/-- After any calls the route is the end of the thinned positions, at most 10000 of them, in
    the order of arrival; its neighbours are far, and the next position is kept as it would
    be if nothing had been dropped. -/
theorem tripRoute_thinned (calls : List (TripCall Pos)) :
    (tripAfter far geoPoint calls).tripRoute =
        (thin far (pointsSince geoPoint calls)).drop
          ((thin far (pointsSince geoPoint calls)).length - maxRoute) ∧
      (tripAfter far geoPoint calls).tripRoute.length ≤ maxRoute ∧
      (tripAfter far geoPoint calls).tripRoute.Sublist (pointsSince geoPoint calls) ∧
      List.IsChain (fun p q => far p q = true) (tripAfter far geoPoint calls).tripRoute ∧
      ∀ p, keeps far (tripAfter far geoPoint calls).tripRoute p =
        keeps far (thin far (pointsSince geoPoint calls)) p := by
  rw [tripRoute_eq]
  refine ⟨rfl, ?_, ?_, (isChain_thin far _).drop _, fun p => keeps_rtake far (by decide) _ p⟩
  · rw [List.rtake, List.length_drop]
    omega
  · exact (List.drop_sublist _ _).trans (thin_sublist far _)

end

end Iso21177
