/-
What the handlers of the carousel change.

# What a function leaves alone

First, one lemma for each function of the script about what it leaves
alone. There are three kinds of change, and each is a relation between
the carousel before and after:

- `OnlyArrows`: the arrows' own attributes (`updateArrowStates`,
  `showArrows`, `hideArrows`, and `updateArrows` of the other controller);
- `Navigated`: the index with what is displayed for it
  (`navigateToIndex`, and with it the arrows, the keys and a swipe);
- `OnlyDrag`: the drag with its traces (`handleDragStart`,
  `handleDragMove`, the first half of `handleDragEnd`).

A key and a swipe do what an arrow does, or nothing (`handleKeydown_cases`,
`swipe_cases`), so what is proved of the arrows is proved of them. A
configuration sets the mode's variables, limits the index and displays
(`onlyArrows_updateCarouselConfig`).

# What an event does

An event runs one handler, or two: a scroll event clears what was due and
may set the arrows. `Handled` lists what a handler can make of the
carousel, and `handle_handled` says that every event is a sequence of
these. So a property that each handler keeps holds of every page of a run
(`run_handled`); the later modules prove theirs by cases on `Handled` and
never look at an event again. What is not the carousel's, the pointers
that are down and whether the other controller is there, is in
`handle_env`.
-/
import SkillBuddy.Frontend.SingleProduct
import Mathlib.Logic.Relation

namespace SkillBuddy.SingleProduct

open Lib

variable {c c' : Carousel} {press : Bool}

-- ============================================================== the arrows

/-- Only the arrows' own attributes differ. -/
def OnlyArrows (c c' : Carousel) : Prop :=
  ∃ l r, c' = { c with leftBtn := l, rightBtn := r }
    ∧ l.isSome = c.leftBtn.isSome ∧ r.isSome = c.rightBtn.isSome

theorem OnlyArrows.refl (c : Carousel) : OnlyArrows c c :=
  ⟨c.leftBtn, c.rightBtn, rfl, rfl, rfl⟩

theorem OnlyArrows.trans {c c' c'' : Carousel} (h : OnlyArrows c c')
    (h' : OnlyArrows c' c'') : OnlyArrows c c'' := by
  obtain ⟨l, r, rfl, hl, hr⟩ := h
  obtain ⟨l', r', rfl, hl', hr'⟩ := h'
  exact ⟨l', r', rfl, hl'.trans hl, hr'.trans hr⟩

theorem onlyArrows_map (c : Carousel) (f g : Button → Button) :
    OnlyArrows c
      { c with leftBtn := c.leftBtn.map f, rightBtn := c.rightBtn.map g } :=
  ⟨_, _, rfl, Option.isSome_map, Option.isSome_map⟩

/-- It writes the two buttons, and only if there are both. -/
theorem onlyArrows_updateArrowStates (c : Carousel) :
    OnlyArrows c (updateArrowStates c) := by
  unfold updateArrowStates
  split
  · exact .refl c
  · exact onlyArrows_map c _ _

theorem onlyArrows_showArrows (c : Carousel) :
    OnlyArrows c (showArrows c) := by
  unfold showArrows
  split
  · exact (onlyArrows_map c _ _).trans (onlyArrows_updateArrowStates _)
  · exact .refl c

theorem onlyArrows_hideArrows (c : Carousel) :
    OnlyArrows c (hideArrows c) := by
  unfold hideArrows
  split
  · exact onlyArrows_map c _ _
  · exact .refl c

/-- The scroll-based controller's function writes the buttons that there
are. They keep everything but `disabled`. -/
theorem onlyArrows_updateArrows (c : Carousel) :
    OnlyArrows c (updateArrows c) :=
  onlyArrows_map c _ _

/-- The index says what the arrows are set to, and setting them does not
change it: the second time they are what they were. -/
theorem updateArrowStates_idem (c : Carousel) :
    updateArrowStates (updateArrowStates c) = updateArrowStates c := by
  rcases c with ⟨_, _ | _, _ | _, _, _, _, _, _, _, _, _⟩ <;> rfl

/-- The same of the scroll-based controller, which goes by the container's
layout. -/
theorem updateArrows_idem (c : Carousel) :
    updateArrows (updateArrows c) = updateArrows c := by
  rcases c with ⟨_, _ | _, _ | _, _, _, _, _, _, _, _, _⟩ <;> rfl

-- ============================================================= the display

/-- The cards as `updateCarouselDisplay` leaves them. -/
def displayed (c : Carousel) : List Card :=
  (c.serviceCards.mapIdx (displayCard c)).modify c.selectedCard highlightCard

@[simp] theorem displayed_length (c : Carousel) :
    (displayed c).length = c.serviceCards.length := by
  rw [displayed, List.length_modify, List.length_mapIdx]

/-- `updateCarouselDisplay` changes cards and arrows: the cards to what
`displayed` says, the arrows last. -/
theorem onlyArrows_updateCarouselDisplay (c : Carousel) :
    OnlyArrows { c with serviceCards := displayed c }
      (updateCarouselDisplay c) :=
  onlyArrows_updateArrowStates _

/-- `navigateToIndex` changes the index besides. -/
theorem onlyArrows_navigateToIndex (newIndex : Int) (c : Carousel) :
    OnlyArrows
      { c with
        currentIndex := max 0 (min newIndex c.maxIndex)
        serviceCards :=
          displayed
            { c with currentIndex := max 0 (min newIndex c.maxIndex) } }
      (navigateToIndex newIndex c) :=
  onlyArrows_updateArrowStates _

-- ============================================================ navigation

/-- The gesture is where it was: cards, arrows and index may differ. -/
structure SameGesture (c c' : Carousel) : Prop where
  drag : c'.drag = c.drag
  container : c'.carouselContainer = c.carouselContainer
  userSelect : c'.userSelect = c.userSelect
  touchHandlers : c'.touchHandlers = c.touchHandlers
  viewMode : c'.viewMode = c.viewMode

theorem SameGesture.refl (c : Carousel) : SameGesture c c :=
  ⟨rfl, rfl, rfl, rfl, rfl⟩

theorem OnlyArrows.sameGesture (h : OnlyArrows c c') : SameGesture c c' := by
  obtain ⟨l, r, rfl, -, -⟩ := h
  exact ⟨rfl, rfl, rfl, rfl, rfl⟩

theorem sameGesture_updateCarouselDisplay (c : Carousel) :
    SameGesture c (updateCarouselDisplay c) := by
  obtain ⟨l, r, h, -, -⟩ := onlyArrows_updateCarouselDisplay c
  rw [h]
  exact ⟨rfl, rfl, rfl, rfl, rfl⟩

/-- Index, displayed cards and arrows may differ. -/
def Navigated (c c' : Carousel) : Prop :=
  ∃ i cards, cards.length = c.serviceCards.length
    ∧ OnlyArrows { c with currentIndex := i, serviceCards := cards } c'

theorem Navigated.refl (c : Carousel) : Navigated c c :=
  ⟨c.currentIndex, c.serviceCards, rfl, .refl c⟩

theorem Navigated.sameGesture (h : Navigated c c') : SameGesture c c' := by
  obtain ⟨i, cards, -, l, r, rfl, -, -⟩ := h
  exact ⟨rfl, rfl, rfl, rfl, rfl⟩

theorem Navigated.selectedCard (h : Navigated c c') :
    c'.selectedCard = c.selectedCard := by
  obtain ⟨i, cards, -, l, r, rfl, -, -⟩ := h
  rfl

theorem Navigated.length (h : Navigated c c') :
    c'.serviceCards.length = c.serviceCards.length := by
  obtain ⟨i, cards, hlength, l, r, rfl, -, -⟩ := h
  exact hlength

theorem navigated_navigateToIndex (newIndex : Int) (c : Carousel) :
    Navigated c (navigateToIndex newIndex c) := by
  refine ⟨_, _, ?_, onlyArrows_navigateToIndex newIndex c⟩
  exact displayed_length _

/-- An arrow goes to some index, or nowhere. -/
theorem stepIndex_cases (c : Carousel) (side : Side) :
    stepIndex c side = c
      ∨ ∃ newIndex, stepIndex c side = navigateToIndex newIndex c := by
  cases side with
  | left =>
      by_cases hindex : c.currentIndex > 0
      · exact .inr ⟨_, if_pos hindex⟩
      · exact .inl (if_neg hindex)
  | right =>
      by_cases hindex : c.currentIndex < c.maxIndex
      · exact .inr ⟨_, if_pos hindex⟩
      · exact .inl (if_neg hindex)

/-- A key does what an arrow does, or nothing. -/
theorem handleKeydown_cases (key : Key) (c : Carousel) :
    handleKeydown key c = c
      ∨ ∃ side, handleKeydown key c = stepIndex c side := by
  unfold handleKeydown
  split
  · exact .inl rfl
  · cases key with
    | arrowLeft => exact .inr ⟨.left, rfl⟩
    | arrowRight => exact .inr ⟨.right, rfl⟩
    | other => exact .inl rfl

/-- So does a swipe. To go on it asks for an index below a bound of its own,
which is at most the arrows'; so where the swipe goes the arrow would. -/
theorem swipe_cases (now : Int) (c : Carousel) :
    swipe now c = c ∨ ∃ side, swipe now c = stepIndex c side := by
  unfold swipe
  dsimp only
  split
  · split
    next hback => exact .inr ⟨.left, (if_pos hback.2).symm⟩
    next =>
        split
        next hon =>
            -- `handleDragEnd` has its own bound, without the `Math.max`.
            have hroom : c.currentIndex < c.maxIndex :=
              lt_max_of_lt_right hon.2
            exact .inr ⟨.right, (if_pos hroom).symm⟩
        next => exact .inl rfl
  · exact .inl rfl

theorem navigated_stepIndex (c : Carousel) (side : Side) :
    Navigated c (stepIndex c side) := by
  rcases stepIndex_cases c side with hstay | ⟨newIndex, hgo⟩
  · rw [hstay]
    exact .refl c
  · rw [hgo]
    exact navigated_navigateToIndex newIndex c

theorem navigated_swipe (now : Int) (c : Carousel) :
    Navigated c (swipe now c) := by
  rcases swipe_cases now c with hstay | ⟨side, hgo⟩
  · rw [hstay]
    exact .refl c
  · rw [hgo]
    exact navigated_stepIndex c side

theorem sameGesture_handleCardClick (index : Nat) (c : Carousel) :
    SameGesture c (handleCardClick index c) := by
  unfold handleCardClick
  split
  · exact .refl c
  · have h :=
      sameGesture_updateCarouselDisplay { c with selectedCard := index }
    exact ⟨h.drag, h.container, h.userSelect, h.touchHandlers, h.viewMode⟩

-- ================================================================== drags

/-- Only the drag and its traces differ, and where the container is
scrolled to; a scroll event that was due still is. -/
def OnlyDrag (c c' : Carousel) : Prop :=
  ∃ drag container userSelect,
    c' = { c with drag, carouselContainer := container, userSelect }
    ∧ (container.scrollPending = false →
      c.carouselContainer.scrollPending = false)

theorem OnlyDrag.refl (c : Carousel) : OnlyDrag c c :=
  ⟨c.drag, c.carouselContainer, c.userSelect, rfl, id⟩

theorem scrollPending_relayout {container : Container} {layout : Layout}
    (h : (container.relayout layout).scrollPending = false) :
    container.scrollPending = false := by
  rw [Container.relayout, Bool.or_eq_false_iff] at h
  exact h.1

theorem onlyDrag_relayout (c : Carousel) (layout : Layout) :
    OnlyDrag c { c with
      carouselContainer := c.carouselContainer.relayout layout } :=
  ⟨c.drag, _, c.userSelect, rfl, scrollPending_relayout⟩

theorem onlyDrag_handleDragStart (at_ : Point) (now : Int) (c : Carousel) :
    OnlyDrag c (handleDragStart at_ now c) := by
  unfold handleDragStart
  split
  · exact .refl c
  · exact ⟨_, _, _, rfl, id⟩

/-- A move may scroll the container, which can make a scroll event due. -/
theorem onlyDrag_handleDragMove (to_ : Point) (c : Carousel) :
    OnlyDrag c (handleDragMove to_ c) := by
  unfold handleDragMove
  dsimp only
  split
  · exact .refl c
  · split
    · exact .refl c
    · split
      · exact ⟨_, _, c.userSelect, rfl, scrollPending_relayout⟩
      · exact .refl c

/-- A drag is going on that `handleDragEnd` would end. -/
def Ends (c : Carousel) : Prop :=
  c.drag.isDragging = true ∧ c.viewMode ≠ .desktop

/-- The carousel with its drag ended. -/
def Carousel.ended (c : Carousel) : Carousel :=
  { c with
    drag :=
      { c.drag with
        isDragging := false
        dragDistance := 0
        hasDragged := false }
    carouselContainer := { c.carouselContainer with dragging := false }
    userSelect := .unset }

/-- The carousel as `handleDragEnd` hands it to the swipe. -/
def Carousel.released (c : Carousel) : Carousel :=
  { c with
    drag := { c.drag with isDragging := false }
    carouselContainer := { c.carouselContainer with dragging := false }
    userSelect := .unset }

theorem handleDragEnd_eq (h : Ends c) (now : Int) :
    handleDragEnd now c
      = { swipe now c.released with
          drag :=
            { (swipe now c.released).drag with
              dragDistance := 0
              hasDragged := false } } := by
  unfold handleDragEnd
  rw [if_neg (by simp [h.1, h.2])]
  rfl

/-- `handleDragEnd` ends the drag, and may go on to a neighbour: the swipe
is decided on what the drag has left, and the drag is reset behind it. -/
theorem handleDragEnd_ends (h : Ends c) (now : Int) :
    Navigated c.ended (handleDragEnd now c) := by
  obtain ⟨i, cards, hlength, l, r, hswipe, hl, hr⟩ :=
    navigated_swipe now c.released
  rw [handleDragEnd_eq h, hswipe]
  exact ⟨i, cards, hlength, l, r, rfl, hl, hr⟩

theorem handleDragEnd_of_not_ends (h : ¬ Ends c) (now : Int) :
    handleDragEnd now c = c := by
  unfold handleDragEnd
  rw [if_pos]
  rw [Ends, not_and_or, not_not] at h
  rcases h with hdrag | hmode
  · simp [hdrag]
  · simp [hmode]

/-- What is displayed is changed by the swipe, if at all. -/
theorem handleDragEnd_cases (now : Int) (c : Carousel) :
    handleDragEnd now c = c
      ∨ OnlyDrag c c.released
        ∧ OnlyDrag (swipe now c.released) (handleDragEnd now c) := by
  by_cases hends : Ends c
  · refine .inr ⟨⟨_, _, _, rfl, id⟩, ?_⟩
    rw [handleDragEnd_eq hends]
    exact ⟨_, _, _, rfl, id⟩
  · exact .inl (handleDragEnd_of_not_ends hends now)

-- ======================================================= the configuration

/-- How many cards belong to a view mode. -/
def ViewMode.cardsPerView : ViewMode → Nat
  | .mobile => 1
  | .tablet => 2
  | .desktop => 3

/-- The variables of a view mode. -/
def Carousel.inMode (c : Carousel) (viewMode : ViewMode) : Carousel :=
  { c with
    viewMode
    cardsPerView := viewMode.cardsPerView
    touchHandlers := viewMode != .desktop }

/-- The `switch` sets the variables of the mode, and arrows. -/
theorem onlyArrows_configure (c : Carousel) :
    OnlyArrows (c.inMode c.viewMode) (configure c) := by
  unfold configure Carousel.inMode
  cases c.viewMode with
  | mobile => exact onlyArrows_hideArrows _
  | tablet => exact onlyArrows_showArrows _
  | desktop => exact onlyArrows_showArrows _

theorem limitIndex_eq (c : Carousel) :
    limitIndex c
      = { c with currentIndex := min c.currentIndex c.maxIndex } := by
  unfold limitIndex
  split
  next h => rw [min_eq_right (le_of_lt h)]
  next h => rw [min_eq_left (not_lt.mp h)]

/-- The variables after `updateCarouselConfig`. -/
def configured (innerWidth : Int) (c : Carousel) : Carousel :=
  limitIndex (c.inMode (getViewMode innerWidth))

theorem onlyArrows_configured (innerWidth : Int) (c : Carousel) :
    OnlyArrows (configured innerWidth c)
      (limitIndex
        (configure { c with viewMode := getViewMode innerWidth })) := by
  obtain ⟨l, r, hconfigure, hl, hr⟩ :=
    onlyArrows_configure { c with viewMode := getViewMode innerWidth }
  rw [hconfigure, limitIndex_eq, configured, limitIndex_eq]
  exact ⟨l, r, rfl, hl, hr⟩

/-- `updateCarouselConfig` sets the variables and displays. -/
theorem onlyArrows_updateCarouselConfig (innerWidth : Int) (c : Carousel) :
    OnlyArrows
      { configured innerWidth c with
        serviceCards := displayed (configured innerWidth c) }
      (updateCarouselConfig innerWidth c) := by
  have hdisplay := onlyArrows_updateCarouselDisplay
    (limitIndex (configure { c with viewMode := getViewMode innerWidth }))
  obtain ⟨l, r, hconfigured, hl, hr⟩ := onlyArrows_configured innerWidth c
  rw [hconfigured] at hdisplay
  refine OnlyArrows.trans ⟨l, r, rfl, hl, hr⟩ ?_
  rw [updateCarouselConfig, hconfigured]
  exact hdisplay

-- ================================================================ loading

/-- The variables' first values, with the arrows as the scroll-based
controller may have set them, configured. -/
def Loaded (markup : Markup) (innerWidth : Int) (layout : Layout)
    (c : Carousel) : Prop :=
  ∃ c₀, OnlyArrows (markup.carousel layout) c₀
    ∧ c = updateCarouselConfig innerWidth c₀

/-- A page with cards loads. -/
theorem load_of_cards {markup : Markup} (hcards : markup.serviceCards ≠ [])
    (innerWidth : Int) (layout : Layout) :
    ∃ p, load markup innerWidth layout = some p := by
  unfold load
  rw [if_neg (by rwa [List.isEmpty_iff])]
  exact ⟨_, rfl⟩

/-- What a page that loads is like. -/
theorem load_eq_some {markup : Markup} {innerWidth : Int} {layout : Layout}
    {p : Page} (hload : load markup innerWidth layout = some p) :
    Loaded markup innerWidth layout p.carousel
      ∧ p.configPending = false ∧ p.arrowsPending = 0
      ∧ p.scrollBased = markup.scrollBased ∧ p.pressed = 0 := by
  unfold load at hload
  split at hload
  · cases hload
  next =>
      obtain rfl := Option.some.inj hload
      refine ⟨⟨_, ?_, rfl⟩, rfl, rfl, rfl, rfl⟩
      split
      · exact onlyArrows_updateArrows _
      · exact .refl _

-- ============================================================ the handlers

/-- A pointer goes down. -/
def Event.isPress : Event → Bool
  | .press _ _ _ => true
  | _ => false

/-- How many pointers are down after an event. -/
def Event.pressedAfter (pressed : Nat) : Event → Nat
  | .press _ _ _ => pressed + 1
  | .release _ => pressed - 1
  | _ => pressed

/-- What one handler makes of the carousel, or the browser of its
container; a drag starts only at a press. -/
inductive Handled (press : Bool) (c : Carousel) : Carousel → Prop where
  | config (innerWidth : Int) :
      Handled press c (updateCarouselConfig innerWidth c)
  | arrows : Handled press c (updateArrows c)
  | container (k : Container)
      (hk : k.dragging = c.carouselContainer.dragging) :
      Handled press c { c with carouselContainer := k }
  | index (side : Side) : Handled press c (stepIndex c side)
  | dragStart (at_ : Point) (now : Int) (hpress : press = true) :
      Handled press c (handleDragStart at_ now c)
  | dragMove (to_ : Point) : Handled press c (handleDragMove to_ c)
  | dragEnd (now : Int) : Handled press c (handleDragEnd now c)
  | cardClick (index : Nat) : Handled press c (handleCardClick index c)

/-- Handlers run one after another. -/
abbrev HandledAll (press : Bool) : Carousel → Carousel → Prop :=
  Relation.ReflTransGen (Handled press)

/-- What every handler keeps, handlers one after another keep. -/
theorem HandledAll.keeps {I : Carousel → Prop}
    (hkeep : ∀ c c', Handled press c c' → I c → I c')
    (hall : HandledAll press c c') (hI : I c) : I c' := by
  induction hall with
  | refl => exact hI
  | tail _ hlast ih => exact hkeep _ _ hlast ih

namespace Page

@[simp] theorem onCarousel_carousel (p : Page) (f : Carousel → Carousel) :
    (p.onCarousel f).carousel = f p.carousel := rfl

@[simp] theorem onCarousel_arrowsPending (p : Page)
    (f : Carousel → Carousel) :
    (p.onCarousel f).arrowsPending = p.arrowsPending := rfl

@[simp] theorem onCarousel_scrollBased (p : Page)
    (f : Carousel → Carousel) :
    (p.onCarousel f).scrollBased = p.scrollBased := rfl

@[simp] theorem queueArrows_carousel (p : Page) :
    p.queueArrows.carousel = p.carousel := by
  unfold queueArrows
  split <;> rfl

@[simp] theorem queueArrows_scrollBased (p : Page) :
    p.queueArrows.scrollBased = p.scrollBased := by
  unfold queueArrows
  split <;> rfl

@[simp] theorem queueArrows_pressed (p : Page) :
    p.queueArrows.pressed = p.pressed := by
  unfold queueArrows
  split <;> rfl

@[simp] theorem queueArrows_configPending (p : Page) :
    p.queueArrows.configPending = p.configPending := by
  unfold queueArrows
  split <;> rfl

theorem handled_onScroll (p : Page) :
    HandledAll press p.carousel p.onScroll.carousel := by
  have hclear := @Handled.container press p.carousel
    { p.carousel.carouselContainer with scrollPending := false } rfl
  unfold onScroll
  split
  · dsimp only
    split
    · exact .tail (.single hclear) .arrows
    · exact .single hclear
  · exact .refl

theorem onArrowClick_enabled {p : Page} {side : Side} {button : Button}
    (hbutton : p.carousel.button side = some button)
    (henabled : button.disabled = false) :
    p.onArrowClick side = p.queueArrows.onCarousel (stepIndex · side) := by
  unfold onArrowClick
  rw [hbutton]
  dsimp only
  rw [if_neg (by simp [henabled])]

theorem onArrowClick_disabled {p : Page} {side : Side} {button : Button}
    (hbutton : p.carousel.button side = some button)
    (hdisabled : button.disabled = true) : p.onArrowClick side = p := by
  unfold onArrowClick
  rw [hbutton]
  dsimp only
  rw [if_pos hdisabled]

/-- A click on an arrow does nothing, or runs both listeners. -/
theorem onArrowClick_cases (p : Page) (side : Side) :
    p.onArrowClick side = p
      ∨ p.onArrowClick side
        = p.queueArrows.onCarousel (stepIndex · side) := by
  cases hbutton : p.carousel.button side with
  | none =>
      refine .inl ?_
      unfold onArrowClick
      rw [hbutton]
  | some button =>
      cases hdisabled : button.disabled with
      | true => exact .inl (onArrowClick_disabled hbutton hdisabled)
      | false => exact .inr (onArrowClick_enabled hbutton hdisabled)

theorem handled_onArrowClick (p : Page) (side : Side) :
    HandledAll press p.carousel (p.onArrowClick side).carousel := by
  rcases p.onArrowClick_cases side with hnothing | hboth
  · rw [hnothing]
  · rw [hboth, onCarousel_carousel, queueArrows_carousel]
    exact .single (.index side)

/-- What a press does to the carousel. -/
theorem onPress_carousel (p : Page) (onCarousel : Bool) (at_ : Point)
    (now : Int) :
    (p.onPress onCarousel at_ now).carousel
      = if onCarousel && p.carousel.touchHandlers then
          handleDragStart at_ now p.carousel
        else p.carousel := by
  unfold onPress
  dsimp only
  split <;> rfl

/-- What a release does to the carousel. -/
theorem onRelease_carousel (p : Page) (now : Int) :
    (p.onRelease now).carousel
      = if 0 < p.pressed ∧ p.carousel.touchHandlers then
          handleDragEnd now p.carousel
        else p.carousel := by
  unfold onRelease
  dsimp only
  by_cases hpressed : 0 < p.pressed
  · rw [if_pos hpressed]
    by_cases hattached : p.carousel.touchHandlers = true
    · rw [if_pos hattached, if_pos ⟨hpressed, hattached⟩]
      rfl
    · rw [if_neg hattached, if_neg (fun h => hattached h.2)]
  · rw [if_neg hpressed, if_neg (fun h => hpressed h.1)]

/-- Every event is a sequence of handlers. -/
theorem handle_handled (p : Page) (e : Event) :
    HandledAll e.isPress p.carousel (p.handle e).carousel := by
  cases e with
  | resize innerWidth =>
      rw [handle, onResize, queueArrows_carousel]
  | configTimer =>
      rw [handle, onConfigTimer]
      split
      · exact .single (.config p.innerWidth)
      · exact .refl
  | arrowsTimer =>
      rw [handle, onArrowsTimer]
      split
      · exact .single .arrows
      · exact .refl
  | relayout layout => exact .single (.container _ rfl)
  | scroll => exact p.handled_onScroll
  | arrowClick side => exact p.handled_onArrowClick side
  | keydown key =>
      rw [handle, onCarousel_carousel]
      rcases handleKeydown_cases key p.carousel with hnot | ⟨side, harrow⟩
      · rw [hnot]
      · rw [harrow]
        exact .single (.index side)
  | press onCarousel at_ now =>
      rw [handle, onPress_carousel]
      split
      · exact .single (.dragStart at_ now rfl)
      · exact .refl
  | move to_ =>
      rw [handle, onMove]
      split
      · exact .single (.dragMove to_)
      · exact .refl
  | release now =>
      rw [handle, onRelease_carousel]
      split
      · exact .single (.dragEnd now)
      · exact .refl
  | cardClick index =>
      rw [handle, onCardClick]
      split
      · exact .single (.cardClick index)
      · exact .refl

/-- Presses and releases count the pointers; the scroll-based controller
stays as it was set up. -/
theorem handle_env (p : Page) (e : Event) :
    (p.handle e).pressed = e.pressedAfter p.pressed
      ∧ (p.handle e).scrollBased = p.scrollBased := by
  cases e with
  | resize innerWidth =>
      exact ⟨queueArrows_pressed _, queueArrows_scrollBased _⟩
  | configTimer =>
      rw [handle, onConfigTimer]
      split <;> exact ⟨rfl, rfl⟩
  | arrowsTimer =>
      rw [handle, onArrowsTimer]
      split <;> exact ⟨rfl, rfl⟩
  | relayout layout => exact ⟨rfl, rfl⟩
  | scroll =>
      rw [handle, onScroll]
      dsimp only
      split
      · split <;> exact ⟨rfl, rfl⟩
      · exact ⟨rfl, rfl⟩
  | arrowClick side =>
      rw [handle]
      rcases p.onArrowClick_cases side with hnothing | hboth
      · rw [hnothing]
        exact ⟨rfl, rfl⟩
      · rw [hboth]
        exact ⟨queueArrows_pressed p, queueArrows_scrollBased p⟩
  | keydown key => exact ⟨rfl, rfl⟩
  | press onCarousel at_ now =>
      rw [handle, onPress]
      dsimp only
      split <;> exact ⟨rfl, rfl⟩
  | move to_ =>
      rw [handle, onMove]
      split <;> exact ⟨rfl, rfl⟩
  | release now =>
      rw [handle, onRelease]
      dsimp only
      split
      · split <;> exact ⟨rfl, rfl⟩
      next hnone =>
          refine ⟨?_, rfl⟩
          show p.pressed = p.pressed - 1
          omega
  | cardClick index =>
      rw [handle, onCardClick]
      split <;> exact ⟨rfl, rfl⟩

/-- An event always happens, if only to no effect. -/
theorem step_total (p : Page) (e : Event) : ∃ q, step p e = some q :=
  ⟨p.handle e, rfl⟩

/-- What every handler keeps holds in every page of a run. The press that a
handler may depend on is the event's. -/
theorem run_handled {I : Carousel → Prop}
    (hkeep : ∀ press c c', Handled press c c' → I c → I c')
    {events : List Event} {p q : Page} (hI : I p.carousel)
    (hrun : run step p events = some q) : I q.carousel := by
  refine run_invariant_all (I := fun p => I p.carousel) ?_ hI hrun
  intro p e q hp hstep
  obtain rfl := Option.some.inj hstep
  exact (p.handle_handled e).keeps (hkeep e.isPress) hp

end Page

end SkillBuddy.SingleProduct
