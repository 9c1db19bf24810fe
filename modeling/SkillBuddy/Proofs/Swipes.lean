/-
Moving the carousel by hand.

# One gesture

A gesture is a press, moves, and a release; meanwhile the layout may
change, the container scroll and the window be resized. What it does to
the window in view depends on two numbers only: how far the last move that
was recognised had come, and how long the pointer was down
(`gesture_moves_window`). A press does not reset that distance, so where a
drag was going on already, it counts from there.

`Dragging` is what holds while the pointer is down, with these two numbers
as parameters; each event that may happen meanwhile keeps it, a move with
the distance it has come to (`Dragging.handle`), so the whole of them is a
fold over the events (`Dragging.run`). A resize during the gesture only
sets a timer; the timer's event is not among them, since it may make the
page a desktop page, which takes no release. What `handleDragEnd` does
with the two numbers is `swipeMove`: far, or far enough for its speed, and
then to the neighbour that the pointer points away from.

# Every card

Two users do not have the arrows: one with a keyboard, one with a finger.
Both can move the window either way by one card, so both reach every card
(`keys_reach_every_card`, `swipes_reach_every_card`): the library says how
often a window has to be moved for a place to be in it, and in which
direction. Neither depends on what the arrow buttons say.
-/
import SkillBuddy.Proofs.CarouselView

namespace SkillBuddy.SingleProduct

open Lib

variable {c c' : Carousel} {w : Window}

-- =============================================================== the swipe

/-- Far enough, or far enough for its speed. -/
def IsSwipe (distance : ℚ) (duration : Int) : Prop :=
  (duration < 200 ∧ |distance| > 30) ∨ |distance| > 100

instance (distance : ℚ) (duration : Int) :
    Decidable (IsSwipe distance duration) :=
  inferInstanceAs (Decidable (_ ∨ _))

/-- What a swipe does to the window: a pointer that goes right brings back
the card before. -/
def swipeMove (distance : ℚ) (duration : Int) (w : Window) : Window :=
  if IsSwipe distance duration then
    if distance > 0 then w.prev else w.next
  else w

/-- A swipe has a direction. -/
theorem IsSwipe.ne_zero {distance : ℚ} {duration : Int}
    (h : IsSwipe distance duration) : distance ≠ 0 := by
  intro hzero
  rw [IsSwipe, hzero, abs_zero] at h
  rcases h with ⟨-, hfar⟩ | hfar
  · exact absurd hfar (by decide +kernel)
  · exact absurd hfar (by decide +kernel)

/-- The swipe of `handleDragEnd` does that. Where the window cannot move the
script does not navigate, and the neighbour is the window itself. -/
theorem shows_swipe (h : Shows c w) (now : Int) :
    Shows (swipe now c)
      (swipeMove c.drag.dragDistance (now - c.drag.dragStartTime) w) := by
  unfold swipe swipeMove
  dsimp only
  by_cases hswipe : IsSwipe c.drag.dragDistance (now - c.drag.dragStartTime)
  · have hne := hswipe.ne_zero
    rw [if_pos hswipe]
    rw [IsSwipe] at hswipe
    rw [if_pos hswipe]
    by_cases hback : c.drag.dragDistance > 0
    · rw [if_pos hback]
      by_cases hindex : c.currentIndex > 0
      · have hleft : stepIndex c .left = navigateToIndex _ c := if_pos hindex
        rw [if_pos ⟨hback, hindex⟩, ← hleft]
        exact h.stepIndex_left
      · have hpos := h.pos
        rw [if_neg fun hand => hindex hand.2,
          if_neg fun hand => not_lt_of_gt hback hand.1,
          w.prev_eq_self (by omega)]
        exact h
    · have hon : c.drag.dragDistance < 0 :=
        lt_of_le_of_ne (not_lt.mp hback) hne
      rw [if_neg hback, if_neg fun hand => hback hand.1]
      by_cases hroom : c.currentIndex
          < c.serviceCards.length - c.cardsPerView
      · have hright : stepIndex c .right = navigateToIndex _ c :=
          if_pos (lt_max_of_lt_right hroom)
        rw [if_pos ⟨hon, hroom⟩, ← hright]
        exact h.stepIndex_right
      · rw [if_neg fun hand => hroom hand.2, w.next_eq_self ?_]
        · exact h
        · rw [h.pos, h.items, h.size] at hroom
          rw [Window.last]
          omega
  · rw [if_neg hswipe]
    rw [IsSwipe] at hswipe
    rw [if_neg hswipe]
    exact h

/-- The release does it, from a drag that is going on. -/
theorem shows_handleDragEnd (h : Shows c w) (hends : Ends c)
    (now : Int) :
    Shows (handleDragEnd now c)
      (swipeMove c.drag.dragDistance (now - c.drag.dragStartTime) w) := by
  have hreleased : Shows c.released w := h.congr rfl rfl rfl rfl
  rw [handleDragEnd_eq hends]
  exact (shows_swipe hreleased now).congr rfl rfl rfl rfl

-- ============================================================= the gesture

/-- The distance that counts, after an event. -/
def Event.distanceFrom (start : Point) (distance : ℚ) : Event → ℚ
  | .move to_ =>
      if Recognised start to_ then to_.clientX - start.clientX else distance
  | _ => distance

/-- What happens while a pointer is down: it moves, or the page does. -/
def Event.duringGesture : Event → Bool
  | .move _ | .relayout _ | .scroll | .arrowsTimer | .resize _ => true
  | _ => false

/-- During a gesture from `start`: a drag since `since`, as far as
`distance`, on a page at the window `w` with a pointer down. -/
structure Dragging (start : Point) (since : Int) (distance : ℚ) (w : Window)
    (p : Page) : Prop where
  draggingFrom : DraggingFrom start p.carousel
  since : p.carousel.drag.dragStartTime = since
  distance : p.carousel.drag.dragDistance = distance
  shows : Shows p.carousel w
  pressed : 0 < p.pressed

variable {start : Point} {since : Int} {distance : ℚ}

/-- The gesture does not see the arrows, the container's layout, or what is
pending. -/
theorem Dragging.congr {p q : Page} (h : Dragging start since distance w p)
    (hdrag : q.carousel.drag = p.carousel.drag)
    (hmode : q.carousel.viewMode = p.carousel.viewMode)
    (hattached : q.carousel.touchHandlers = p.carousel.touchHandlers)
    (hshows : Shows q.carousel w) (hpressed : q.pressed = p.pressed) :
    Dragging start since distance w q where
  draggingFrom :=
    ⟨⟨by rw [hdrag, h.draggingFrom.ends.1],
        by rw [hmode]; exact h.draggingFrom.ends.2⟩,
      by rw [hdrag, h.draggingFrom.startX],
      by rw [hdrag, h.draggingFrom.startY],
      hattached.trans h.draggingFrom.attached⟩
  since := by rw [hdrag, h.since]
  distance := by rw [hdrag, h.distance]
  shows := hshows
  pressed := by rw [hpressed]; exact h.pressed

/-- The other controller's arrows are not seen either. -/
theorem Dragging.updateArrows {p q : Page}
    (h : Dragging start since distance w p)
    (hcarousel : q.carousel = updateArrows p.carousel)
    (hpressed : q.pressed = p.pressed) :
    Dragging start since distance w q := by
  refine h.congr ?_ ?_ ?_ ?_ hpressed
  · rw [hcarousel]
    rfl
  · rw [hcarousel]
    rfl
  · rw [hcarousel]
    rfl
  · rw [hcarousel]
    exact (onlyArrows_updateArrows p.carousel).shows h.shows

/-- A move counts if it is recognised. -/
theorem Dragging.onMove {p : Page} (h : Dragging start since distance w p)
    (to_ : Point) :
    Dragging start since ((Event.move to_).distanceFrom start distance) w
      (p.onMove to_) := by
  rw [Event.distanceFrom]
  unfold Page.onMove
  rw [if_pos h.draggingFrom.attached]
  by_cases hrecognised : Recognised start to_
  · obtain ⟨container, hmove⟩ :=
      handleDragMove_recognised h.draggingFrom hrecognised
    rw [if_pos hrecognised, Page.onCarousel, hmove]
    exact ⟨⟨h.draggingFrom.ends, h.draggingFrom.startX,
      h.draggingFrom.startY, h.draggingFrom.attached⟩, h.since, rfl,
      h.shows.congr rfl rfl rfl rfl, h.pressed⟩
  · rw [if_neg hrecognised, Page.onCarousel,
      handleDragMove_of_not_recognised h.draggingFrom hrecognised]
    exact ⟨h.draggingFrom, h.since, h.distance, h.shows, h.pressed⟩

/-- Whatever happens during a gesture, only its moves count. One case for
each event that may happen. -/
theorem Dragging.handle {p : Page} (h : Dragging start since distance w p)
    {e : Event} (he : e.duringGesture = true) :
    Dragging start since (e.distanceFrom start distance) w
      (p.handle e) := by
  cases e with
  | move to_ => exact h.onMove to_
  | relayout layout =>
      exact h.congr rfl rfl rfl (h.shows.congr rfl rfl rfl rfl) rfl
  | scroll =>
      rw [Page.handle, Page.onScroll]
      dsimp only
      have hclear : Dragging start since distance w
          (p.onCarousel fun c => { c with
            carouselContainer :=
              { c.carouselContainer with scrollPending := false } }) :=
        h.congr rfl rfl rfl (h.shows.congr rfl rfl rfl rfl) rfl
      split
      · split
        · exact hclear.updateArrows rfl rfl
        · exact hclear
      · exact h
  | arrowsTimer =>
      rw [Page.handle, Page.onArrowsTimer]
      split
      · exact h.updateArrows rfl rfl
      · exact h
  | resize innerWidth =>
      have hcarousel : (p.onResize innerWidth).carousel = p.carousel :=
        Page.queueArrows_carousel _
      refine h.congr ?_ ?_ ?_ ?_ (Page.queueArrows_pressed _)
      · rw [Page.handle, hcarousel]
      · rw [Page.handle, hcarousel]
      · rw [Page.handle, hcarousel]
      · rw [Page.handle, hcarousel]
        exact h.shows
  | configTimer => cases he
  | arrowClick side => cases he
  | keydown key => cases he
  | press onCarousel at_ now => cases he
  | release now => cases he
  | cardClick index => cases he

/-- The whole of what happens before the release. -/
theorem Dragging.run {events : List Event}
    (hduring : ∀ e ∈ events, e.duringGesture = true) :
    ∀ {p : Page} {distance : ℚ}, Dragging start since distance w p →
      ∃ q, Lib.run Page.step p events = some q
        ∧ Dragging start since
          (events.foldl (Event.distanceFrom start) distance) w q := by
  induction events with
  | nil => exact fun {p distance} h => ⟨p, rfl, h⟩
  | cons e events ih =>
      intro p distance h
      obtain ⟨he, hrest⟩ := List.forall_mem_cons.mp hduring
      obtain ⟨q, hrun, hq⟩ := ih hrest (h.handle he)
      exact ⟨q, run_cons_eq_some.mpr ⟨_, rfl, hrun⟩, hq⟩

/-- A press in the container starts a gesture. -/
theorem dragging_onPress {p : Page} (hcoherent : Coherent p.carousel)
    (hmode : p.carousel.viewMode ≠ .desktop) (h : Shows p.carousel w)
    (start : Point) (since : Int) :
    Dragging start since p.carousel.drag.dragDistance w
      (p.onPress true start since) := by
  have hattached : p.carousel.touchHandlers = true := by
    rw [hcoherent.handlers]
    simpa using hmode
  have hpressed : (p.onPress true start since).pressed = p.pressed + 1 :=
    (p.handle_env (.press true start since)).1
  have hpress : (p.onPress true start since).carousel
      = handleDragStart start since p.carousel := by
    rw [Page.onPress_carousel, hattached]
    rfl
  refine ⟨?_, ?_, ?_, ?_, by omega⟩
  · rw [hpress]
    exact draggingFrom_handleDragStart hmode hattached start since
  · rw [hpress, handleDragStart, if_neg hmode]
  · rw [hpress, handleDragStart, if_neg hmode]
  · rw [hpress]
    exact (onlyDrag_handleDragStart start since p.carousel).shows h

/-- The release of the pointer ends the gesture. -/
theorem Dragging.onRelease {p : Page} (h : Dragging start since distance w p)
    (now : Int) :
    Shows (p.onRelease now).carousel (swipeMove distance (now - since) w)
      ∧ (p.onRelease now).carousel.viewMode = p.carousel.viewMode
      ∧ (p.onRelease now).carousel.drag.isDragging = false := by
  have hends := h.draggingFrom.ends
  rw [Page.onRelease_carousel,
    if_pos ⟨h.pressed, h.draggingFrom.attached⟩]
  refine ⟨?_, (quiet_handleDragEnd now p.carousel).viewMode,
    isDragging_handleDragEnd hends.2 now⟩
  have hshows := shows_handleDragEnd h.shows hends now
  rw [h.distance, h.since] at hshows
  exact hshows

/-- A page in tablet or mobile mode, at a window. -/
structure Touched (p : Page) (w : Window) : Prop where
  coherent : Coherent p.carousel
  mode : p.carousel.viewMode ≠ .desktop
  shows : Shows p.carousel w

/-- A gesture, with all that may happen meanwhile. -/
theorem Touched.gesture {p : Page} (h : Touched p w) (start : Point)
    (since : Int) {during : List Event}
    (hduring : ∀ e ∈ during, e.duringGesture = true) (now : Int) :
    ∃ q, run Page.step p (.press true start since
        :: (during ++ [.release now])) = some q
      ∧ Touched q (swipeMove
        (during.foldl (Event.distanceFrom start)
          p.carousel.drag.dragDistance)
        (now - since) w)
      ∧ q.carousel.drag.isDragging = false := by
  obtain ⟨u, hu, hdragging⟩ := Dragging.run hduring
    (dragging_onPress h.coherent h.mode h.shows start since)
  obtain ⟨hshows, hmode, hended⟩ := hdragging.onRelease now
  have hrun : run Page.step p (.press true start since
      :: (during ++ [.release now])) = some (u.onRelease now) :=
    run_cons_eq_some.mpr ⟨_, rfl, run_append_eq_some.mpr ⟨u, hu, rfl⟩⟩
  refine ⟨_, hrun, ⟨?_, ?_, hshows⟩, hended⟩
  · exact Page.run_handled (I := Coherent) (fun _ _ _ hc h => h.handled hc)
      h.coherent hrun
  · rw [hmode]
    exact hdragging.draggingFrom.ends.2

/-- Outside of desktop mode every reachable page is one. -/
theorem touched_reachable {p : Page} (hreach : p.Reachable)
    (hmode : p.carousel.viewMode ≠ .desktop) :
    ∃ w, Touched p w := by
  have hcoherent := coherent_reachable hreach
  obtain ⟨markup, innerWidth, layout, p₀, events, hload, hrun⟩ := hreach
  obtain ⟨w, -, hw⟩ := showsWindow_run (showsWindow_load hload) hrun
  exact ⟨w, hcoherent, hmode, hw⟩

/-- A gesture on a reachable page in tablet or mobile mode moves the window
by the last move recognised and the time it took: to the neighbour it
points away from if it is a swipe, and not at all otherwise. -/
theorem gesture_moves_window {p : Page} (hreach : p.Reachable)
    (hmode : p.carousel.viewMode ≠ .desktop) (start : Point) (since : Int)
    {during : List Event} (hduring : ∀ e ∈ during, e.duringGesture = true)
    (now : Int) :
    ∃ w q, Shows p.carousel w
      ∧ run Page.step p (.press true start since
          :: (during ++ [.release now])) = some q
      ∧ Shows q.carousel (swipeMove
          (during.foldl (Event.distanceFrom start)
            p.carousel.drag.dragDistance) (now - since) w)
      ∧ q.carousel.drag.isDragging = false := by
  obtain ⟨w, hw⟩ := touched_reachable hreach hmode
  obtain ⟨q, hrun, hq, hended⟩ := hw.gesture start since hduring now
  exact ⟨w, q, hw.shows, hrun, hq.shows, hended⟩

/-- A slow swipe on a tablet, scrolled and turned meanwhile. -/
theorem gesture_moves_window_fiveCards :
    ∃ p q, load fiveCards 700 ⟨0, 700, 700⟩ = some p
      ∧ run Page.step p (.press true ⟨200, 50⟩ 0
          :: ([.move ⟨80, 52⟩, .resize 1000, .relayout ⟨0, 900, 700⟩]
            ++ [.release 900])) = some q
      ∧ q.carousel.drag.isDragging = false := by
  obtain ⟨w, q, -, hrun, -, hended⟩ := @gesture_moves_window _
    ⟨fiveCards, 700, ⟨0, 700, 700⟩, _, [], rfl, rfl⟩ (by decide)
    ⟨200, 50⟩ 0 [.move ⟨80, 52⟩, .resize 1000, .relayout ⟨0, 900, 700⟩]
    (by decide +kernel) 900
  exact ⟨_, q, rfl, hrun, hended⟩

-- ==================================================== every card by hand

/-- Every view mode shows a card at least. -/
theorem Shows.size_pos (h : Shows c w) : 0 < w.size := by
  have hsize : (w.size : Int) = c.viewMode.cardsPerView :=
    h.size.symm.trans h.mode
  cases hmode : c.viewMode with
  | mobile =>
      rw [hmode, ViewMode.cardsPerView] at hsize
      omega
  | tablet =>
      rw [hmode, ViewMode.cardsPerView] at hsize
      omega
  | desktop =>
      rw [hmode, ViewMode.cardsPerView] at hsize
      omega

/-- A swipe by a hundred pixels and one moves the window, wherever and
however slowly. The move is recognised, because it is level. -/
theorem Touched.swipe {p : Page} (h : Touched p w) (start : Point)
    (since now : Int) {distance : ℚ} (hfar : |distance| > 100) :
    ∃ q, run Page.step p
        (SingleProduct.gesture start since
          [⟨start.clientX + distance, start.clientY⟩] now) = some q
      ∧ Touched q (if distance > 0 then w.prev else w.next) := by
  have hmove : ∀ e ∈
      [Event.move ⟨start.clientX + distance, start.clientY⟩],
      e.duringGesture = true := by
    intro e he
    rw [List.mem_singleton.mp he]
    rfl
  obtain ⟨q, hrun, hq, -⟩ := h.gesture start since hmove now
  have hrecognised : Recognised start
      ⟨start.clientX + distance, start.clientY⟩ := by
    refine ⟨?_, ?_⟩
    · rw [sub_self, abs_zero]
      exact not_lt.mpr (abs_nonneg _)
    · rw [add_sub_cancel_left]
      exact lt_trans (by decide +kernel) hfar
  have hswipe : IsSwipe distance (now - since) := .inr hfar
  rw [List.foldl_cons, List.foldl_nil, Event.distanceFrom,
    if_pos hrecognised, add_sub_cancel_left, swipeMove, if_pos hswipe] at hq
  exact ⟨q, hrun, hq⟩

/-- From every reachable page in tablet or mobile mode, every card comes
into view by swipes one way, wherever they start and however long they
take. By induction on how many the window needs. -/
theorem swipes_reach_every_card {p : Page} (hreach : p.Reachable)
    (hmode : p.carousel.viewMode ≠ .desktop) (start : Point)
    (since now : Int) {i : Nat} (hi : i < p.carousel.serviceCards.length) :
    ∃ distance k q, run Page.step p
        (List.replicate k
          (gesture start since
            [⟨start.clientX + distance, start.clientY⟩] now)).flatten
        = some q
      ∧ q.carousel.currentIndex ≤ i
      ∧ i < q.carousel.currentIndex + q.carousel.cardsPerView := by
  obtain ⟨w, hw⟩ := touched_reachable hreach hmode
  have hitems : i < w.items := by
    rw [← hw.shows.items]
    exact hi
  have hback : ∀ p v, Touched p v → ∃ q, run Page.step p
      (gesture start since [⟨start.clientX + 101, start.clientY⟩] now)
        = some q ∧ Touched q v.prev :=
    fun p v h => h.swipe start since now (by decide +kernel)
  have hon : ∀ p v, Touched p v → ∃ q, run Page.step p
      (gesture start since [⟨start.clientX + -101, start.clientY⟩] now)
        = some q ∧ Touched q v.next :=
    fun p v h => h.swipe start since now (by decide +kernel)
  obtain ⟨swipe, k, q, v, hswipe, hrun, hq, hview⟩ :=
    w.brings_by_moves hback hon hw hw.shows.size_pos hitems
  have hcard : q.carousel.currentIndex ≤ i
      ∧ i < q.carousel.currentIndex + q.carousel.cardsPerView := by
    rw [hq.shows.pos, hq.shows.size]
    rw [Window.Contains] at hview
    omega
  rcases hswipe with rfl | rfl
  · exact ⟨101, k, q, hrun, hcard⟩
  · exact ⟨-101, k, q, hrun, hcard⟩

/-- The last of five cards, on a tablet. -/
theorem swipes_reach_last_card :
    ∃ p distance k q, load fiveCards 700 ⟨0, 700, 700⟩ = some p
      ∧ run Page.step p
        (List.replicate k
          (gesture ⟨300, 50⟩ 0 [⟨300 + distance, 50⟩] 400)).flatten = some q
      ∧ 4 < q.carousel.currentIndex + q.carousel.cardsPerView := by
  obtain ⟨distance, k, q, hrun, -, hcard⟩ := @swipes_reach_every_card _
    ⟨fiveCards, 700, ⟨0, 700, 700⟩, _, [], rfl, rfl⟩ (by decide)
    ⟨300, 50⟩ 0 400 4 (by decide)
  exact ⟨_, distance, k, q, rfl, hrun, hcard⟩

/-- A page outside mobile mode, at a window. -/
structure Keyed (p : Page) (w : Window) : Prop where
  mode : p.carousel.viewMode ≠ .mobile
  shows : Shows p.carousel w

/-- An arrow key moves the window. -/
theorem Keyed.keydown {p : Page} (h : Keyed p w) (key : Key) (side : Side)
    (hkey : handleKeydown key p.carousel = stepIndex p.carousel side) :
    ∃ q, run Page.step p [.keydown key] = some q
      ∧ Keyed q (side.move w) := by
  refine ⟨_, rfl, ?_, ?_⟩
  · show (handleKeydown key p.carousel).viewMode ≠ .mobile
    rw [(quiet_handleKeydown key p.carousel).viewMode]
    exact h.mode
  · show Shows (handleKeydown key p.carousel) (side.move w)
    rw [hkey]
    exact h.shows.stepIndex side

/-- From every reachable page every card comes to be displayed by one of
the arrow keys, whatever the arrow buttons say. -/
theorem keys_reach_every_card {p : Page} (hreach : p.Reachable) {i : Nat}
    (hi : i < p.carousel.serviceCards.length) :
    ∃ key k q, run Page.step p (List.replicate k (.keydown key)) = some q
      ∧ ∃ card, q.carousel.serviceCards[i]? = some card
        ∧ card.isDisplayed = true := by
  obtain ⟨markup, innerWidth, layout, p₀, events, hload, hrun⟩ := hreach
  by_cases hmode : p.carousel.viewMode = .mobile
  · -- In mobile mode all cards are displayed.
    have hcards := (drawn_run (drawn_load hload) hrun).cards
    refine ⟨.arrowLeft, 0, p, rfl, _, List.getElem?_eq_getElem hi, ?_⟩
    simp [hcards, rendered, hmode, Card.isDisplayed]
  · obtain ⟨w, -, hw⟩ := showsWindow_run (showsWindow_load hload) hrun
    have hitems : i < w.items := by
      rw [← hw.items]
      exact hi
    have hback : ∀ p v, Keyed p v → ∃ q,
        run Page.step p [.keydown .arrowLeft] = some q ∧ Keyed q v.prev :=
      fun p v h => h.keydown .arrowLeft .left (if_neg h.mode)
    have hon : ∀ p v, Keyed p v → ∃ q,
        run Page.step p [.keydown .arrowRight] = some q ∧ Keyed q v.next :=
      fun p v h => h.keydown .arrowRight .right (if_neg h.mode)
    obtain ⟨keys, k, q, v, hkeys, hrun', hq, hview⟩ :=
      w.brings_by_moves hback hon ⟨hmode, hw⟩ hw.size_pos hitems
    have hcard : ∃ card, q.carousel.serviceCards[i]? = some card
        ∧ card.isDisplayed = true := by
      obtain ⟨v', hitems', hv'⟩ := showsWindow_run ⟨w, rfl, hw⟩ hrun'
      have hlength : i < q.carousel.serviceCards.length := by
        rw [hv'.items, hitems']
        exact hitems
      refine ⟨_, List.getElem?_eq_getElem hlength, ?_⟩
      exact (hq.shows.display hq.mode i _
        (List.getElem?_eq_getElem hlength)).mpr hview
    rcases hkeys with rfl | rfl
    · rw [List.flatten_replicate_singleton] at hrun'
      exact ⟨.arrowLeft, k, q, hrun', hcard⟩
    · rw [List.flatten_replicate_singleton] at hrun'
      exact ⟨.arrowRight, k, q, hrun', hcard⟩

/-- The last of five cards, where both arrow buttons are disabled. -/
theorem keys_reach_last_card :
    ∃ p key k q, load fiveCards 1024 ⟨0, 900, 900⟩ = some p
      ∧ run Page.step p [.arrowClick .right, .arrowsTimer] = some q
      ∧ ∃ r card, run Page.step q (List.replicate k (.keydown key)) = some r
        ∧ r.carousel.serviceCards[4]? = some card
        ∧ card.isDisplayed = true := by
  obtain ⟨key, k, r, hrun, card, hcard, hdisplayed⟩ :=
    @keys_reach_every_card _
      ⟨fiveCards, 1024, ⟨0, 900, 900⟩, _,
        [.arrowClick .right, .arrowsTimer], rfl, rfl⟩ 4 (by decide)
  exact ⟨_, key, k, _, rfl, rfl, r, card, hrun, hcard, hdisplayed⟩

end SkillBuddy.SingleProduct
