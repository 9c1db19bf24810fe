/-
The carousel's window is always valid.

The abstract carousel is a `Window` over the cards: a position and a size
with its own laws, and no script. `Fits c w` says that index and size are
those of `w` and belong to the view mode, `Shows c w` that outside mobile
mode the cards displayed are those in view.

# What is displayed

`updateCarouselDisplay` compares each card's index with the two ends of
the window, so at a window it displays that window
(`Fits.shows_updateCarouselDisplay`). In mobile mode it displays every
card and leaves the rest to the style sheet, which is why `Shows` asks
nothing there.

# What moves it

Every handler leaves the carousel at a window again: the arrows, the keys
and a swipe at its neighbour, the configuration at the window resized,
the others where it was. For the arrows this rests on both having the
same bound, `maxIndex`; the swipe has a bound of its own, which is the
same where it lets one go on (`swipe_cases`). A configuration shrinks the
index to what the new size allows, as `Window.resize` does, so the
variables are at the resized window before anything is displayed for it
(`Fits.configured`).

So the window's laws hold of every page a run reaches
(`window_valid`): the index is in range, the size is the mode's, and as
many cards are displayed as there are places, or cards.
-/
import SkillBuddy.Lib.Window
import SkillBuddy.Proofs.CarouselSteps

namespace SkillBuddy.SingleProduct

open Lib

/-- The card is displayed: its `display` is not `none`. -/
def Card.isDisplayed (card : Card) : Bool := card.display != .none

-- ============================================================= the window

/-- The carousel is at the window `w`. -/
structure Fits (c : Carousel) (w : Window) : Prop where
  items : c.serviceCards.length = w.items
  mode : c.cardsPerView = c.viewMode.cardsPerView
  size : c.cardsPerView = w.size
  pos : c.currentIndex = w.pos

/-- The carousel is at the window `w` and displays what is in view. -/
structure Shows (c : Carousel) (w : Window) : Prop extends Fits c w where
  display : c.viewMode ≠ .mobile → ∀ i card,
    c.serviceCards[i]? = some card → (card.isDisplayed = true ↔ w.Contains i)

variable {c c' : Carousel} {w : Window} {press : Bool}

/-- The script's bound of the index is the window's last position. -/
theorem Fits.maxIndex_eq (h : Fits c w) : c.maxIndex = w.last := by
  rw [Carousel.maxIndex, h.items, h.size, Window.last]
  omega

/-- Only what the window is about matters. -/
theorem Fits.congr (h : Fits c w)
    (hcards : c'.serviceCards.length = c.serviceCards.length)
    (hindex : c'.currentIndex = c.currentIndex)
    (hsize : c'.cardsPerView = c.cardsPerView)
    (hmode : c'.viewMode = c.viewMode) : Fits c' w where
  items := hcards.trans h.items
  mode := by rw [hsize, hmode, h.mode]
  size := hsize.trans h.size
  pos := hindex.trans h.pos

theorem Shows.congr (h : Shows c w)
    (hcards : c'.serviceCards = c.serviceCards)
    (hindex : c'.currentIndex = c.currentIndex)
    (hsize : c'.cardsPerView = c.cardsPerView)
    (hmode : c'.viewMode = c.viewMode) : Shows c' w where
  toFits := h.toFits.congr (by rw [hcards]) hindex hsize hmode
  display := by
    rw [hmode, hcards]
    exact h.display

/-- The arrows are not part of the window. -/
theorem OnlyArrows.fits (harrows : OnlyArrows c c') (h : Fits c w) :
    Fits c' w := by
  obtain ⟨l, r, rfl, -, -⟩ := harrows
  exact h.congr rfl rfl rfl rfl

theorem OnlyArrows.shows (harrows : OnlyArrows c c') (h : Shows c w) :
    Shows c' w := by
  obtain ⟨l, r, rfl, -, -⟩ := harrows
  exact h.congr rfl rfl rfl rfl

theorem OnlyDrag.shows (hdrag : OnlyDrag c c') (h : Shows c w) :
    Shows c' w := by
  obtain ⟨drag, container, userSelect, rfl, -⟩ := hdrag
  exact h.congr rfl rfl rfl rfl

-- ============================================================ the display

theorem isDisplayed_highlightCard (card : Card) :
    (highlightCard card).isDisplayed = card.isDisplayed := by
  unfold highlightCard
  split <;> rfl

/-- Outside mobile mode a card is displayed if it lies between the ends of
the window. -/
theorem isDisplayed_displayCard (hmode : c.viewMode ≠ .mobile) (i : Nat)
    (card : Card) :
    (displayCard c i card).isDisplayed = true
      ↔ c.currentIndex ≤ i ∧ i < c.currentIndex + c.cardsPerView := by
  unfold displayCard
  dsimp only
  rw [if_neg hmode, Card.isDisplayed]
  by_cases hvisible :
      c.currentIndex ≤ i ∧ i < c.currentIndex + c.cardsPerView
  · simp [hvisible]
  · simp [hvisible]

/-- The card at a place, as `updateCarouselDisplay` leaves it. -/
theorem displayed_getElem? {i : Nat} {card : Card}
    (hcard : (displayed c)[i]? = some card) :
    ∃ old, c.serviceCards[i]? = some old
      ∧ card.isDisplayed = (displayCard c i old).isDisplayed := by
  rw [displayed, List.getElem?_modify, List.getElem?_mapIdx] at hcard
  cases hold : c.serviceCards[i]? with
  | none => simp [hold] at hcard
  | some old =>
      rw [hold, Option.map_some, Option.map_eq_map, Option.map_some,
        Option.some.injEq] at hcard
      refine ⟨old, rfl, ?_⟩
      rw [← hcard]
      split
      · exact isDisplayed_highlightCard _
      · rfl

/-- At a window, the cards as displayed show it. -/
theorem Fits.shows_displayed (h : Fits c w) :
    Shows { c with serviceCards := displayed c } w := by
  refine ⟨h.congr (displayed_length c) rfl rfl rfl, ?_⟩
  intro hmode i card hcard
  obtain ⟨old, -, hdisplayed⟩ := displayed_getElem? hcard
  rw [hdisplayed, isDisplayed_displayCard (c := c) hmode, h.pos, h.size,
    Window.Contains]
  omega

/-- At a window, `updateCarouselDisplay` shows it. -/
theorem Fits.shows_updateCarouselDisplay (h : Fits c w) :
    Shows (updateCarouselDisplay c) w :=
  (onlyArrows_updateCarouselDisplay c).shows h.shows_displayed

-- ========================================================= the navigation

/-- `navigateToIndex` goes to the window at the index, if that is one. -/
theorem Fits.shows_navigateToIndex {v : Window} {newIndex : Int}
    (h : Fits c w) (hitems : v.items = w.items) (hsize : v.size = w.size)
    (hindex : newIndex = v.pos) : Shows (navigateToIndex newIndex c) v := by
  have hle := v.pos_le
  refine Fits.shows_updateCarouselDisplay ⟨?_, h.mode, ?_, ?_⟩
  · rw [hitems]
    exact h.items
  · rw [hsize]
    exact h.size
  -- The clamp leaves an index that is a position where it is.
  · show max 0 (min newIndex c.maxIndex) = (v.pos : Int)
    rw [h.maxIndex_eq, hindex, Window.last, ← hitems, ← hsize]
    omega

/-- The left arrow goes one card back, if there is one; at the first it does
nothing, and the window has no predecessor but itself. -/
theorem Shows.stepIndex_left (h : Shows c w) :
    Shows (stepIndex c .left) w.prev := by
  unfold stepIndex
  dsimp only
  split
  next hindex =>
      refine h.toFits.shows_navigateToIndex rfl rfl ?_
      rw [h.pos] at hindex ⊢
      rw [Window.prev_pos]
      omega
  next hindex =>
      rw [h.pos] at hindex
      rw [w.prev_eq_self (by omega)]
      exact h

/-- The right arrow goes one card on, if there is room. -/
theorem Shows.stepIndex_right (h : Shows c w) :
    Shows (stepIndex c .right) w.next := by
  unfold stepIndex
  dsimp only
  split
  next hindex =>
      refine h.toFits.shows_navigateToIndex rfl rfl ?_
      rw [h.pos, h.maxIndex_eq] at hindex
      rw [h.pos, Window.next_pos]
      omega
  next hindex =>
      rw [h.pos, h.maxIndex_eq] at hindex
      rw [w.next_eq_self (by omega)]
      exact h

/-- Which way an arrow goes. -/
def Side.move : Side → Window → Window
  | .left => Window.prev
  | .right => Window.next

theorem Side.move_items (side : Side) (w : Window) :
    (side.move w).items = w.items := by
  cases side <;> rfl

theorem Shows.stepIndex (h : Shows c w) (side : Side) :
    Shows (stepIndex c side) (side.move w) := by
  cases side with
  | left => exact h.stepIndex_left
  | right => exact h.stepIndex_right

/-- A swipe goes to a neighbour, or nowhere. -/
theorem Shows.swipe (h : Shows c w) (now : Int) :
    ∃ v, v.items = w.items ∧ Shows (swipe now c) v := by
  rcases swipe_cases now c with hstay | ⟨side, hgo⟩
  · rw [hstay]
    exact ⟨w, rfl, h⟩
  · rw [hgo]
    exact ⟨side.move w, side.move_items w, h.stepIndex side⟩

-- ====================================================== the configuration

theorem Fits.configured (h : Fits c w) (innerWidth : Int) :
    Fits (configured innerWidth c)
      (w.resize (getViewMode innerWidth).cardsPerView) := by
  rw [SingleProduct.configured, limitIndex_eq]
  refine ⟨h.items, rfl, rfl, ?_⟩
  have hmax : (c.inMode (getViewMode innerWidth)).maxIndex
      = max 0 ((w.items : Int) - (getViewMode innerWidth).cardsPerView) := by
    rw [← h.items]
    rfl
  show min c.currentIndex (c.inMode (getViewMode innerWidth)).maxIndex = _
  rw [hmax, h.pos, Window.resize_pos]
  omega

/-- The configuration resizes the window. -/
theorem Fits.shows_updateCarouselConfig (h : Fits c w) (innerWidth : Int) :
    Shows (updateCarouselConfig innerWidth c)
      (w.resize (getViewMode innerWidth).cardsPerView) := by
  refine (onlyArrows_updateCarouselConfig innerWidth c).shows ?_
  exact (h.configured innerWidth).shows_displayed

-- ============================================================ every handler

theorem Shows.handleDragEnd (h : Shows c w) (now : Int) :
    ∃ v, v.items = w.items ∧ Shows (handleDragEnd now c) v := by
  rcases handleDragEnd_cases now c with hnothing | ⟨hreleased, hended⟩
  · rw [hnothing]
    exact ⟨w, rfl, h⟩
  · obtain ⟨v, hitems, hv⟩ := (hreleased.shows h).swipe now
    exact ⟨v, hitems, hended.shows hv⟩

theorem Shows.handleCardClick (h : Shows c w) (index : Nat) :
    Shows (handleCardClick index c) w := by
  unfold SingleProduct.handleCardClick
  split
  · exact h
  · exact Fits.shows_updateCarouselDisplay
      (h.toFits.congr rfl rfl rfl rfl)

/-- Every handler leaves the carousel at a window over its cards. One case
for each: a move, a resize, or nothing that concerns the window. -/
theorem Shows.handled (h : Shows c w) (hc : Handled press c c') :
    ∃ v, v.items = w.items ∧ Shows c' v := by
  cases hc with
  | config innerWidth =>
      exact ⟨w.resize _, rfl, h.toFits.shows_updateCarouselConfig innerWidth⟩
  | arrows => exact ⟨w, rfl, (onlyArrows_updateArrows c).shows h⟩
  | container k _ => exact ⟨w, rfl, h.congr rfl rfl rfl rfl⟩
  | index side => exact ⟨side.move w, side.move_items w, h.stepIndex side⟩
  | dragStart at_ now _ =>
      exact ⟨w, rfl, (onlyDrag_handleDragStart at_ now c).shows h⟩
  | dragMove to_ => exact ⟨w, rfl, (onlyDrag_handleDragMove to_ c).shows h⟩
  | dragEnd now => exact h.handleDragEnd now
  | cardClick index => exact ⟨w, rfl, h.handleCardClick index⟩

-- ================================================================ the page

/-- The carousel is at some window over `n` cards, and displays it. -/
def ShowsWindow (n : Nat) (c : Carousel) : Prop :=
  ∃ w : Window, w.items = n ∧ Shows c w

theorem ShowsWindow.handled {n : Nat} (h : ShowsWindow n c)
    (hc : Handled press c c') : ShowsWindow n c' := by
  obtain ⟨w, hn, hw⟩ := h
  obtain ⟨v, hitems, hv⟩ := hw.handled hc
  exact ⟨v, hitems.trans hn, hv⟩

/-- A page that loads is at the front of its cards, resized. -/
theorem showsWindow_load {markup : Markup} {innerWidth : Int}
    {layout : Layout} {p : Page}
    (hload : load markup innerWidth layout = some p) :
    ShowsWindow markup.serviceCards.length p.carousel := by
  obtain ⟨⟨c, harrows, hcarousel⟩, -⟩ := load_eq_some hload
  have hfront : Fits (markup.carousel layout)
      (Window.front markup.serviceCards.length 3) := ⟨rfl, rfl, rfl, rfl⟩
  rw [hcarousel]
  exact ⟨_, rfl,
    (harrows.fits hfront).shows_updateCarouselConfig innerWidth⟩

theorem showsWindow_run {n : Nat} {p q : Page} {events : List Event}
    (h : ShowsWindow n p.carousel)
    (hrun : run Page.step p events = some q) : ShowsWindow n q.carousel :=
  Page.run_handled (I := ShowsWindow n)
    (fun _ _ _ hc hw => hw.handled hc) h hrun

/-- The window over `n` cards is valid: the index lies between the first
and the last position, the number of cards is that of the view mode, and
outside mobile mode the cards displayed are those of the window, which are
as many as it has places or the page cards. -/
structure WindowValid (n : Nat) (c : Carousel) : Prop where
  cards : c.serviceCards.length = n
  lower : 0 ≤ c.currentIndex
  upper : c.currentIndex ≤ max 0 ((n : Int) - c.cardsPerView)
  mode : c.cardsPerView = c.viewMode.cardsPerView
  display : c.viewMode ≠ .mobile → ∀ (i : Nat) (card : Card),
    c.serviceCards[i]? = some card →
    (card.isDisplayed = true
      ↔ c.currentIndex ≤ i ∧ i < c.currentIndex + c.cardsPerView)
  count : c.viewMode ≠ .mobile →
    (c.serviceCards.countP Card.isDisplayed : Int)
      = min (n : Int) c.cardsPerView

theorem ShowsWindow.windowValid {n : Nat} (h : ShowsWindow n c) :
    WindowValid n c := by
  obtain ⟨w, rfl, hw⟩ := h
  have hle := w.pos_le
  refine ⟨hw.items, ?_, ?_, hw.mode, fun hmode i card hcard => ?_,
    fun hmode => ?_⟩
  · rw [hw.pos]
    exact Int.natCast_nonneg _
  · rw [hw.pos, hw.size]
    omega
  · rw [hw.display hmode i card hcard, Window.Contains, hw.pos, hw.size]
    omega
  · rw [w.countP_marked hw.items (hw.display hmode), hw.size]
    omega

/-- A page with cards loads, and after every run of events the window is
valid. The run's events are any, in any order; those that cannot happen
do nothing. -/
theorem window_valid {markup : Markup} (hcards : markup.serviceCards ≠ [])
    (innerWidth : Int) (layout : Layout) (events : List Event) :
    ∃ p q, load markup innerWidth layout = some p
      ∧ run Page.step p events = some q
      ∧ WindowValid markup.serviceCards.length q.carousel := by
  obtain ⟨p, hload⟩ := load_of_cards hcards innerWidth layout
  obtain ⟨q, hrun⟩ := run_total Page.step_total events p
  refine ⟨p, q, hload, hrun, ?_⟩
  exact (showsWindow_run (showsWindow_load hload) hrun).windowValid

/-- A page with five cards and both arrows in the container. -/
def fiveCards : Markup where
  serviceCards := List.replicate 5 {}
  leftBtn := some {}
  rightBtn := some {}
  inside := true

/-- On to the last cards, and the tablet turned during a swipe. -/
def turnedTablet : List Event :=
  [.keydown .arrowRight, .arrowClick .right, .arrowClick .right,
    .press true ⟨9, 9⟩ 0, .resize 1024, .move ⟨5, 8⟩, .configTimer,
    .release 400]

/-- Five cards on a tablet that is turned. -/
theorem window_valid_fiveCards :
    ∃ p q, load fiveCards 700 ⟨0, 700, 700⟩ = some p
      ∧ run Page.step p turnedTablet = some q
      ∧ WindowValid 5 q.carousel :=
  @window_valid fiveCards (by decide) 700 ⟨0, 700, 700⟩ turnedTablet

end SkillBuddy.SingleProduct
