/-
The arrow buttons and the position.

# Two writers

The index-based controller sets the buttons whenever it displays, from
the index; the scroll-based one sets them from the scroll position, after
a click, a resize or a scroll. `ArrowsReflect` says that they are as the
first controller sets them. Its own handlers keep that, and a page whose
buttons reflect its position can be brought to show any card by its
buttons (`brings_of_reflect`): every click that the window's way to the
card needs goes to a button that is enabled, since the way does not lead
past an end. The other controller keeps it exactly if the layout's
position says what the index says (`reflect_updateArrows`).

# The last of them

While a timer is set or a scroll event is due, the buttons may say
anything, so the statement is about idle pages. Those events which leave
the page idle are sorted by what they have done to the buttons:

- a `Quiet` one has written nothing that the buttons depend on, or has
  displayed; what was so before is so after (`Governed.reflect_quietTo`);
- the configuration's timer has displayed last, so the buttons reflect
  the position, whatever they said;
- `updateArrows`, from its timer or a scroll event, has written them from
  the layout, so they reflect the position exactly if the layout agrees
  with the index (`ArrowsAgree`);
- a click that moved the carousel, and a resize, have set a timer, so the
  page is not idle after them.

Each of these is one lemma about `Governed`, and an event that agrees
keeps the page governed (`Governed.handle`). Since the equivalence holds
at every step, it holds of runs in both directions: in every idle state
of a run the buttons reflect the position iff every event agrees
(`arrows_reflect_position_iff`).
-/
import SkillBuddy.Proofs.CarouselWindow

namespace SkillBuddy.SingleProduct

open Lib

variable {c c' : Carousel} {w : Window} {press : Bool}

-- ============================================================ what they say

/-- The left button is disabled exactly at the first position, the right
one exactly at the last. -/
def ArrowsReflect (c : Carousel) : Prop :=
  ∃ l r, c.leftBtn = some l ∧ c.rightBtn = some r
    ∧ (l.disabled = true ↔ c.currentIndex = 0)
    ∧ (r.disabled = true ↔ c.currentIndex = c.maxIndex)

/-- The scroll position says what the index says. -/
def LayoutAgrees (c : Carousel) : Prop :=
  let layout := c.carouselContainer.layout
  let max_ : Int := max 0 (layout.scrollWidth - layout.clientWidth - 1)
  (layout.scrollLeft ≤ 0 ↔ c.currentIndex = 0)
    ∧ (layout.scrollLeft ≥ max_ ↔ c.currentIndex = c.maxIndex)

/-- The index is a position. -/
def InRange (c : Carousel) : Prop :=
  0 ≤ c.currentIndex ∧ c.currentIndex ≤ c.maxIndex

theorem Fits.inRange (h : Fits c w) : InRange c := by
  have hle := w.pos_le
  rw [InRange, h.maxIndex_eq, h.pos, Window.last]
  omega

theorem hasArrows_iff (c : Carousel) :
    c.hasArrows = true
      ↔ ∃ l r, c.leftBtn = some l ∧ c.rightBtn = some r := by
  rw [Carousel.hasArrows, Bool.and_eq_true, Option.isSome_iff_exists,
    Option.isSome_iff_exists]
  constructor
  · intro h
    obtain ⟨⟨l, hl⟩, r, hr⟩ := h
    exact ⟨l, r, hl, hr⟩
  · intro h
    obtain ⟨l, r, hl, hr⟩ := h
    exact ⟨⟨l, hl⟩, r, hr⟩

theorem ArrowsReflect.hasArrows (h : ArrowsReflect c) :
    c.hasArrows = true := by
  obtain ⟨l, r, hl, hr, -, -⟩ := h
  exact (hasArrows_iff c).mpr ⟨l, r, hl, hr⟩

theorem OnlyArrows.hasArrows (h : OnlyArrows c c') :
    c'.hasArrows = c.hasArrows := by
  obtain ⟨l, r, rfl, hl, hr⟩ := h
  rw [Carousel.hasArrows, Carousel.hasArrows, hl, hr]

theorem OnlyDrag.hasArrows (h : OnlyDrag c c')
    (harrows : c.hasArrows = true) : c'.hasArrows = true := by
  obtain ⟨drag, container, userSelect, rfl, -⟩ := h
  exact harrows

theorem Navigated.hasArrows (h : Navigated c c')
    (harrows : c.hasArrows = true) : c'.hasArrows = true := by
  obtain ⟨i, cards, -, honly⟩ := h
  exact honly.hasArrows.trans harrows

/-- `updateArrowStates` sets the buttons from the index. -/
theorem reflect_updateArrowStates (harrows : c.hasArrows = true)
    (hrange : InRange c) : ArrowsReflect (updateArrowStates c) := by
  obtain ⟨l, r, hl, hr⟩ := (hasArrows_iff c).mp harrows
  obtain ⟨hlower, hupper⟩ := hrange
  unfold updateArrowStates
  rw [if_neg (by simp [harrows]), hl, hr]
  refine ⟨_, _, rfl, rfl, ?_, ?_⟩
  · show decide (c.currentIndex ≤ 0) = true ↔ c.currentIndex = 0
    rw [decide_eq_true_iff]
    exact ⟨fun h => le_antisymm h hlower, fun h => h.le⟩
  · show decide (c.currentIndex ≥ c.maxIndex) = true
      ↔ c.currentIndex = c.maxIndex
    rw [decide_eq_true_iff]
    exact ⟨fun h => le_antisymm hupper h, fun h => h.ge⟩

/-- `updateArrows` sets them from the layout. -/
theorem reflect_updateArrows (harrows : c.hasArrows = true) :
    ArrowsReflect (updateArrows c) ↔ LayoutAgrees c := by
  obtain ⟨l, r, hl, hr⟩ := (hasArrows_iff c).mp harrows
  unfold updateArrows ArrowsReflect LayoutAgrees
  dsimp only
  rw [hl, hr]
  constructor
  · intro h
    obtain ⟨l', r', hl', hr', hleft, hright⟩ := h
    rw [Option.map_some, Option.some.injEq] at hl' hr'
    subst hl' hr'
    rw [decide_eq_true_iff] at hleft hright
    exact ⟨hleft, hright⟩
  · intro h
    refine ⟨_, _, rfl, rfl, ?_, ?_⟩
    · rw [decide_eq_true_iff]
      exact h.1
    · rw [decide_eq_true_iff]
      exact h.2

-- ===================================================== the index's handlers

theorem ArrowsReflect.congr (h : ArrowsReflect c)
    (hleft : c'.leftBtn = c.leftBtn) (hright : c'.rightBtn = c.rightBtn)
    (hindex : c'.currentIndex = c.currentIndex)
    (hmax : c'.maxIndex = c.maxIndex) : ArrowsReflect c' := by
  rw [ArrowsReflect, hleft, hright, hindex, hmax]
  exact h

theorem reflect_updateCarouselDisplay (harrows : c.hasArrows = true)
    (hrange : InRange c) : ArrowsReflect (updateCarouselDisplay c) := by
  have hmax : Carousel.maxIndex { c with serviceCards := displayed c }
      = c.maxIndex := by
    rw [Carousel.maxIndex, displayed_length, Carousel.maxIndex]
  refine reflect_updateArrowStates harrows ⟨hrange.1, ?_⟩
  exact hrange.2.trans hmax.ge

/-- Wherever it goes, `navigateToIndex` sets the buttons. -/
theorem reflect_navigateToIndex (harrows : c.hasArrows = true)
    (newIndex : Int) : ArrowsReflect (navigateToIndex newIndex c) := by
  refine reflect_updateCarouselDisplay harrows ⟨le_max_left _ _, ?_⟩
  exact max_le (le_max_left _ _) (min_le_right _ _)

/-- So does the configuration. -/
theorem reflect_updateCarouselConfig (harrows : c.hasArrows = true)
    (h : Fits c w) (innerWidth : Int) :
    ArrowsReflect (updateCarouselConfig innerWidth c) := by
  have hconfigured := onlyArrows_configured innerWidth c
  refine reflect_updateCarouselDisplay ?_
    (hconfigured.fits (h.configured innerWidth)).inRange
  rw [hconfigured.hasArrows, configured, limitIndex_eq]
  exact harrows

theorem ArrowsReflect.stepIndex (h : ArrowsReflect c) (side : Side) :
    ArrowsReflect (stepIndex c side) := by
  rcases stepIndex_cases c side with hstay | ⟨newIndex, hgo⟩
  · rw [hstay]
    exact h
  · rw [hgo]
    exact reflect_navigateToIndex h.hasArrows newIndex

theorem ArrowsReflect.swipe (h : ArrowsReflect c) (now : Int) :
    ArrowsReflect (swipe now c) := by
  rcases swipe_cases now c with hstay | ⟨side, hgo⟩
  · rw [hstay]
    exact h
  · rw [hgo]
    exact h.stepIndex side

-- ======================================================= what is not queued

/-- A handler that queues nothing: it leaves the view mode, and buttons
that reflect the position do so afterwards; a scroll event that was due
still is. -/
structure Quiet (c c' : Carousel) : Prop where
  viewMode : c'.viewMode = c.viewMode
  scrollPending : c'.carouselContainer.scrollPending = false →
    c.carouselContainer.scrollPending = false
  reflect : ArrowsReflect c → ArrowsReflect c'

theorem Quiet.refl (c : Carousel) : Quiet c c := ⟨rfl, id, id⟩

theorem Quiet.trans {c'' : Carousel} (h : Quiet c c') (h' : Quiet c' c'') :
    Quiet c c'' where
  viewMode := h'.viewMode.trans h.viewMode
  scrollPending hpending := h.scrollPending (h'.scrollPending hpending)
  reflect hreflect := h'.reflect (h.reflect hreflect)

theorem OnlyDrag.quiet (h : OnlyDrag c c') : Quiet c c' := by
  obtain ⟨drag, container, userSelect, rfl, hpending⟩ := h
  exact ⟨rfl, hpending, fun hreflect => hreflect.congr rfl rfl rfl rfl⟩

theorem SameGesture.quiet (hsame : SameGesture c c')
    (hreflect : ArrowsReflect c → ArrowsReflect c') : Quiet c c' where
  viewMode := hsame.viewMode
  scrollPending := by
    rw [hsame.container]
    exact id
  reflect := hreflect

theorem quiet_handleKeydown (key : Key) (c : Carousel) :
    Quiet c (handleKeydown key c) := by
  rcases handleKeydown_cases key c with hnothing | ⟨side, harrow⟩
  · rw [hnothing]
    exact .refl c
  · rw [harrow]
    exact (navigated_stepIndex c side).sameGesture.quiet (·.stepIndex side)

theorem quiet_handleDragEnd (now : Int) (c : Carousel) :
    Quiet c (handleDragEnd now c) := by
  rcases handleDragEnd_cases now c with hnothing | ⟨hreleased, hended⟩
  · rw [hnothing]
    exact .refl c
  · have hswipe := (navigated_swipe now c.released).sameGesture.quiet
      (·.swipe now)
    exact hreleased.quiet.trans (hswipe.trans hended.quiet)

theorem quiet_handleCardClick (hrange : InRange c) (index : Nat) :
    Quiet c (handleCardClick index c) := by
  refine (sameGesture_handleCardClick index c).quiet ?_
  intro h
  unfold handleCardClick
  split
  · exact h
  · exact reflect_updateCarouselDisplay h.hasArrows hrange

-- ================================================================= the page

/-- No timer is set and no scroll event is due. -/
structure Page.Idle (p : Page) : Prop where
  config : p.configPending = false
  arrows : p.arrowsPending = 0
  scroll : p.carousel.carouselContainer.scrollPending = false

/-- Both controllers are at work, the first at a window over `n` cards,
and outside mobile mode the idle page's buttons reflect its position. -/
structure Governed (n : Nat) (p : Page) : Prop where
  scrollBased : p.scrollBased = true
  hasArrows : p.carousel.hasArrows = true
  window : ShowsWindow n p.carousel
  reflect : p.Idle → p.carousel.viewMode ≠ .mobile →
    ArrowsReflect p.carousel

theorem ShowsWindow.inRange {n : Nat} (h : ShowsWindow n c) : InRange c := by
  obtain ⟨w, -, hw⟩ := h
  exact hw.toFits.inRange

/-- Every handler leaves the buttons in the page. -/
theorem hasArrows_handled (hc : Handled press c c')
    (h : c.hasArrows = true) : c'.hasArrows = true := by
  cases hc with
  | config innerWidth =>
      rw [(onlyArrows_updateCarouselConfig innerWidth c).hasArrows,
        configured, limitIndex_eq]
      exact h
  | arrows =>
      rw [(onlyArrows_updateArrows c).hasArrows]
      exact h
  | container k _ => exact h
  | index side => exact (navigated_stepIndex c side).hasArrows h
  | dragStart at_ now _ =>
      exact (onlyDrag_handleDragStart at_ now c).hasArrows h
  | dragMove to_ => exact (onlyDrag_handleDragMove to_ c).hasArrows h
  | dragEnd now =>
      by_cases hends : Ends c
      · exact (handleDragEnd_ends hends now).hasArrows h
      · rw [handleDragEnd_of_not_ends hends]
        exact h
  | cardClick index =>
      unfold handleCardClick
      split
      · exact h
      · rw [(onlyArrows_updateCarouselDisplay _).hasArrows]
        exact h

/-- An event of which nothing is left to wait for. -/
structure Page.QuietTo (p q : Page) : Prop where
  config : q.configPending = p.configPending
  arrows : q.arrowsPending = p.arrowsPending
  carousel : Quiet p.carousel q.carousel

theorem quietTo_onCarousel (p : Page) {f : Carousel → Carousel}
    (h : Quiet p.carousel (f p.carousel)) : p.QuietTo (p.onCarousel f) :=
  ⟨rfl, rfl, h⟩

theorem Page.QuietTo.refl (p : Page) : p.QuietTo p := ⟨rfl, rfl, .refl _⟩

theorem quietTo_onPress (p : Page) (onCarousel : Bool) (at_ : Point)
    (now : Int) : p.QuietTo (p.onPress onCarousel at_ now) := by
  unfold Page.onPress
  dsimp only
  split
  · exact ⟨rfl, rfl, (onlyDrag_handleDragStart at_ now p.carousel).quiet⟩
  · exact ⟨rfl, rfl, .refl _⟩

theorem quietTo_onMove (p : Page) (to_ : Point) :
    p.QuietTo (p.onMove to_) := by
  unfold Page.onMove
  split
  · exact quietTo_onCarousel p (onlyDrag_handleDragMove to_ p.carousel).quiet
  · exact .refl p

theorem quietTo_onRelease (p : Page) (now : Int) :
    p.QuietTo (p.onRelease now) := by
  unfold Page.onRelease
  dsimp only
  split
  · split
    · exact ⟨rfl, rfl, quiet_handleDragEnd now p.carousel⟩
    · exact ⟨rfl, rfl, .refl _⟩
  · exact .refl p

theorem quietTo_onCardClick {p : Page} (hrange : InRange p.carousel)
    (index : Nat) : p.QuietTo (p.onCardClick index) := by
  unfold Page.onCardClick
  split
  · exact quietTo_onCarousel p (quiet_handleCardClick hrange index)
  · exact .refl p

variable {n : Nat}

/-- Quiet events keep what the idle page's buttons say. -/
theorem Governed.reflect_quietTo {p q : Page} (h : Governed n p)
    (hquiet : p.QuietTo q) (hidle : q.Idle)
    (hmode : q.carousel.viewMode ≠ .mobile) : ArrowsReflect q.carousel := by
  refine hquiet.carousel.reflect (h.reflect ?_ ?_)
  · exact ⟨hquiet.config.symm.trans hidle.config,
      hquiet.arrows.symm.trans hidle.arrows,
      hquiet.carousel.scrollPending hidle.scroll⟩
  · rw [← hquiet.carousel.viewMode]
    exact hmode

/-- Where `updateArrows` is the last thing to wait for, outside mobile
mode, the layout agrees with the index. -/
def ArrowsAgree (p : Page) : Event → Prop
  | .arrowsTimer =>
      p.configPending = false → p.arrowsPending = 1 →
        p.carousel.carouselContainer.scrollPending = false →
        p.carousel.viewMode ≠ .mobile → LayoutAgrees p.carousel
  | .scroll =>
      p.configPending = false → p.arrowsPending = 0 →
        p.carousel.carouselContainer.scrollPending = true →
        p.carousel.viewMode ≠ .mobile → LayoutAgrees p.carousel
  | _ => True


/-- After a timer of `updateArrows`. If others are to come the page is not
idle, and nothing is asked; if it was the last, the buttons are as the
layout says. -/
theorem Governed.reflect_onArrowsTimer {p : Page} (h : Governed n p) :
    (ArrowsAgree p .arrowsTimer
      ↔ ((p.handle .arrowsTimer).Idle →
          (p.handle .arrowsTimer).carousel.viewMode ≠ .mobile →
          ArrowsReflect (p.handle .arrowsTimer).carousel)) := by
  rw [Page.handle, Page.onArrowsTimer]
  split
  next hpending =>
      -- The page is idle afterwards exactly if this was the last timer.
      rw [Page.onCarousel_carousel, reflect_updateArrows h.hasArrows]
      constructor
      · intro hagree hidle hmode
        have harrows : p.arrowsPending - 1 = 0 := hidle.arrows
        exact hagree hidle.config (by omega) hidle.scroll hmode
      · intro hreflect hconfig harrows hscroll hmode
        refine hreflect ⟨hconfig, ?_, hscroll⟩ hmode
        show p.arrowsPending - 1 = 0
        omega
  next hnone =>
      refine iff_of_true ?_ h.reflect
      intro _ harrows
      omega

/-- After the scroll event. It is like a timer of `updateArrows`, but that
it is the timers that may still be to come. -/
theorem Governed.reflect_onScroll {p : Page} (h : Governed n p) :
    (ArrowsAgree p .scroll
      ↔ ((p.handle .scroll).Idle →
          (p.handle .scroll).carousel.viewMode ≠ .mobile →
          ArrowsReflect (p.handle .scroll).carousel)) := by
  rw [Page.handle, Page.onScroll]
  dsimp only
  split
  next hpending =>
      have hset := reflect_updateArrows (c :=
        { p.carousel with
          carouselContainer :=
            { p.carousel.carouselContainer with scrollPending := false } })
        h.hasArrows
      rw [Page.onCarousel_scrollBased, if_pos h.scrollBased]
      constructor
      · intro hagree hidle hmode
        exact hset.mpr (hagree hidle.config hidle.arrows hpending hmode)
      · intro hreflect hconfig harrows _ hmode
        exact hset.mp (hreflect ⟨hconfig, harrows, rfl⟩ hmode)
  next hnone =>
      refine iff_of_true ?_ h.reflect
      intro _ _ hpending
      exact absurd hpending hnone

/-- After the configuration's timer the buttons reflect the position. -/
theorem Governed.reflect_onConfigTimer {p : Page} (h : Governed n p)
    (hidle : p.onConfigTimer.Idle)
    (hmode : p.onConfigTimer.carousel.viewMode ≠ .mobile) :
    ArrowsReflect p.onConfigTimer.carousel := by
  unfold Page.onConfigTimer at hidle hmode ⊢
  split
  · obtain ⟨w, -, hw⟩ := h.window
    exact reflect_updateCarouselConfig h.hasArrows hw.toFits p.innerWidth
  next hnone =>
      rw [if_neg hnone] at hidle hmode
      exact h.reflect hidle hmode

/-- After a click on an arrow a timer is set, unless nothing happened. -/
theorem Governed.reflect_onArrowClick {p : Page} (h : Governed n p)
    (side : Side) (hidle : (p.onArrowClick side).Idle)
    (hmode : (p.onArrowClick side).carousel.viewMode ≠ .mobile) :
    ArrowsReflect (p.onArrowClick side).carousel := by
  rcases p.onArrowClick_cases side with hnothing | hboth
  · rw [hnothing] at hidle hmode ⊢
    exact h.reflect hidle hmode
  · have hqueued := hidle.arrows
    rw [hboth, Page.onCarousel_arrowsPending, Page.queueArrows,
      if_pos h.scrollBased] at hqueued
    cases hqueued

/-- After an event the idle page's buttons reflect its position exactly if
the event agrees. One case for each event; all but the timers and the scroll
event agree by definition. -/
theorem Governed.reflect_handle_iff {p : Page} (h : Governed n p)
    (e : Event) :
    ArrowsAgree p e
      ↔ ((p.handle e).Idle → (p.handle e).carousel.viewMode ≠ .mobile →
          ArrowsReflect (p.handle e).carousel) := by
  have hquiet : ∀ q, p.QuietTo q → (True ↔ (q.Idle →
      q.carousel.viewMode ≠ .mobile → ArrowsReflect q.carousel)) :=
    fun q hq => iff_of_true trivial fun hidle hmode =>
      h.reflect_quietTo hq hidle hmode
  cases e with
  | resize innerWidth =>
      refine iff_of_true trivial fun hidle _ => ?_
      have hset : (p.onResize innerWidth).configPending = true :=
        Page.queueArrows_configPending _
      exact absurd (hset.symm.trans hidle.config) Bool.noConfusion
  | configTimer =>
      exact iff_of_true trivial fun hidle hmode =>
        h.reflect_onConfigTimer hidle hmode
  | arrowsTimer => exact h.reflect_onArrowsTimer
  | relayout layout =>
      exact hquiet _ ⟨rfl, rfl, (onlyDrag_relayout p.carousel layout).quiet⟩
  | scroll => exact h.reflect_onScroll
  | arrowClick side =>
      exact iff_of_true trivial fun hidle hmode =>
        h.reflect_onArrowClick side hidle hmode
  | keydown key =>
      exact hquiet _ (quietTo_onCarousel p (quiet_handleKeydown key _))
  | press onCarousel at_ now =>
      exact hquiet _ (quietTo_onPress p onCarousel at_ now)
  | move to_ => exact hquiet _ (quietTo_onMove p to_)
  | release now => exact hquiet _ (quietTo_onRelease p now)
  | cardClick index =>
      exact hquiet _ (quietTo_onCardClick h.window.inRange index)

/-- An event that agrees keeps the page governed. -/
theorem Governed.handle {p : Page} (h : Governed n p) {e : Event}
    (hagree : ArrowsAgree p e) : Governed n (p.handle e) where
  scrollBased := (p.handle_env e).2.trans h.scrollBased
  hasArrows := (p.handle_handled e).keeps
    (fun _ _ hc harrows => hasArrows_handled hc harrows) h.hasArrows
  window := (p.handle_handled e).keeps (fun _ _ hc hw => hw.handled hc)
    h.window
  reflect := (h.reflect_handle_iff e).mp hagree

-- ========================================================= reaching a card

/-- Clicks on arrows bring card `i` into view. -/
def Page.Brings (p : Page) (i : Nat) : Prop :=
  ∃ (sides : List Side) (q : Page),
    run Page.step p (sides.map .arrowClick) = some q
    ∧ ∃ card, q.carousel.serviceCards[i]? = some card
      ∧ card.isDisplayed = true

/-- Where the buttons reflect the position, the clicks they do not take
would do nothing. -/
theorem ArrowsReflect.onArrowClick {p : Page}
    (h : ArrowsReflect p.carousel) (side : Side) :
    (p.onArrowClick side).carousel
      = SingleProduct.stepIndex p.carousel side := by
  obtain ⟨l, r, hl, hr, hleft, hright⟩ := h
  -- A button is disabled only where its listener has nowhere to go.
  obtain ⟨button, hbutton, hend⟩ : ∃ button,
      p.carousel.button side = some button
        ∧ (button.disabled = true →
          SingleProduct.stepIndex p.carousel side = p.carousel) := by
    cases side with
    | left =>
        refine ⟨l, hl, fun hdisabled => ?_⟩
        rw [SingleProduct.stepIndex, if_neg]
        have hindex := hleft.mp hdisabled
        omega
    | right =>
        refine ⟨r, hr, fun hdisabled => ?_⟩
        rw [SingleProduct.stepIndex, if_neg]
        have hindex := hright.mp hdisabled
        omega
  cases hdisabled : button.disabled with
  | true =>
      rw [Page.onArrowClick_disabled hbutton hdisabled, hend hdisabled]
  | false =>
      rw [Page.onArrowClick_enabled hbutton hdisabled,
        Page.onCarousel_carousel, Page.queueArrows_carousel]

/-- At the window `w`, with buttons that reflect the position. -/
structure AtWindow (c : Carousel) (w : Window) : Prop where
  shows : Shows c w
  reflect : ArrowsReflect c
  mode : c.viewMode ≠ .mobile

theorem AtWindow.onArrowClick {p : Page} (h : AtWindow p.carousel w)
    (side : Side) :
    AtWindow (p.onArrowClick side).carousel (side.move w) := by
  rw [h.reflect.onArrowClick]
  refine ⟨h.shows.stepIndex side, h.reflect.stepIndex side, ?_⟩
  rw [(navigated_stepIndex p.carousel side).sameGesture.viewMode]
  exact h.mode

/-- So many clicks on one arrow move the window so many times, or as far as
it goes: at the end the button is disabled, and takes no click. -/
theorem AtWindow.clicks (side : Side) (k : Nat) :
    ∀ {p : Page} {w : Window}, AtWindow p.carousel w →
      ∃ q, run Page.step p ((List.replicate k side).map .arrowClick) = some q
        ∧ AtWindow q.carousel (side.move^[k] w) := by
  induction k with
  | zero => exact fun {p w} h => ⟨p, rfl, h⟩
  | succ k ih =>
      intro p w h
      obtain ⟨q, hrun, hq⟩ := ih (h.onArrowClick side)
      exact ⟨q, run_cons_eq_some.mpr ⟨_, rfl, hrun⟩, hq⟩

/-- A card in view after so many clicks on one arrow. -/
theorem AtWindow.brings {p : Page} (h : AtWindow p.carousel w) (side : Side)
    (k : Nat) {i : Nat} (hi : i < w.items)
    (hview : (side.move^[k] w).Contains i) : p.Brings i := by
  obtain ⟨q, hrun, hq⟩ := AtWindow.clicks side k h
  have hcards : i < q.carousel.serviceCards.length := by
    rw [hq.shows.items, w.iterate_keeps side.move_items]
    exact hi
  refine ⟨_, q, hrun, _, List.getElem?_eq_getElem hcards, ?_⟩
  exact (hq.shows.display hq.mode i _
    (List.getElem?_eq_getElem hcards)).mpr hview

/-- Where the buttons reflect the position, they bring every card into view:
left or right as often as the window needs it. -/
theorem brings_of_reflect {p : Page} (hwindow : ShowsWindow n p.carousel)
    (hreflect : ArrowsReflect p.carousel)
    (hmode : p.carousel.viewMode ≠ .mobile) {i : Nat} (hi : i < n) :
    p.Brings i := by
  obtain ⟨w, rfl, hw⟩ := hwindow
  have hat : AtWindow p.carousel w := ⟨hw, hreflect, hmode⟩
  have hsize : 0 < w.size := by
    have hcards : (w.size : Int) = p.carousel.viewMode.cardsPerView :=
      hw.size.symm.trans hw.mode
    cases hview : p.carousel.viewMode with
    | mobile => exact absurd hview hmode
    | tablet =>
        rw [hview, ViewMode.cardsPerView] at hcards
        omega
    | desktop =>
        rw [hview, ViewMode.cardsPerView] at hcards
        omega
  -- The card is left of the window, right of it, or in view already.
  by_cases hleft : i < w.pos
  · exact hat.brings .left _ hi
      (w.contains_iterate_prev hsize hleft)
  · by_cases hright : w.pos + w.size ≤ i
    · exact hat.brings .right _ hi
        (w.contains_iterate_next hsize hi hright)
    · refine hat.brings .right 0 hi ?_
      rw [Function.iterate_zero_apply, Window.Contains]
      omega

-- ============================================================== every run

/-- What the buttons of an idle page outside mobile mode should be like:
they reflect its position, and clicks on them reach every card. -/
def ArrowsReach (p : Page) : Prop :=
  p.Idle → p.carousel.viewMode ≠ .mobile →
    ArrowsReflect p.carousel
      ∧ ∀ i < p.carousel.serviceCards.length, p.Brings i

theorem Governed.arrowsReach {p : Page} (h : Governed n p) :
    ArrowsReach p := by
  intro hidle hmode
  have hreflect := h.reflect hidle hmode
  refine ⟨hreflect, fun i hi => ?_⟩
  obtain ⟨w, hn, hw⟩ := h.window
  rw [hw.items, hn] at hi
  exact brings_of_reflect ⟨w, hn, hw⟩ hreflect hmode hi

/-- A page that loads is governed. -/
theorem governed_load {markup : Markup} {innerWidth : Int} {layout : Layout}
    {p : Page} (hinside : markup.scrollBased = true)
    (hload : load markup innerWidth layout = some p) :
    Governed markup.serviceCards.length p := by
  obtain ⟨⟨c, harrows, hcarousel⟩, -, -, hbased, -⟩ := load_eq_some hload
  have hfirst : (markup.carousel layout).hasArrows = true := by
    rw [Markup.scrollBased, Bool.and_assoc, Bool.and_eq_true] at hinside
    exact hinside.2
  have hset : c.hasArrows = true := harrows.hasArrows.trans hfirst
  have hfits : Fits (markup.carousel layout)
      (Window.front markup.serviceCards.length 3) := ⟨rfl, rfl, rfl, rfl⟩
  have hreflect : ArrowsReflect p.carousel := by
    rw [hcarousel]
    exact reflect_updateCarouselConfig hset (harrows.fits hfits) innerWidth
  exact ⟨hbased.trans hinside, hreflect.hasArrows, showsWindow_load hload,
    fun _ _ => hreflect⟩

/-- In every idle state of a run the buttons reflect the position exactly if
every event agrees. The first event that does not agree leaves an idle
page whose buttons do not reflect its position, so one direction looks at
that prefix, and the other is the invariant. -/
theorem arrows_reflect_position_iff {markup : Markup} {innerWidth : Int}
    {layout : Layout} {p : Page} (hinside : markup.scrollBased = true)
    (hload : load markup innerWidth layout = some p) (events : List Event) :
    (∀ pre, pre <+: events → ∀ q, run Page.step p pre = some q →
        ArrowsReach q)
      ↔ Along Page.step ArrowsAgree p events := by
  refine forall_reached_iff_along (P := fun _ => True)
    (S := Governed markup.serviceCards.length) Page.step_total
    (fun q hq => hq.arrowsReach) ?_ ?_ (fun _ _ => trivial)
    (governed_load hinside hload)
  · intro q e q' hq _ hstep hagree
    obtain rfl := Option.some.inj hstep
    exact hq.handle hagree
  · intro q e q' hq _ hstep hreach
    obtain rfl := Option.some.inj hstep
    exact (hq.reflect_handle_iff e).mpr fun hidle hmode =>
      (hreach hidle hmode).1

/-- The right key, and a scroll event for a position between the ends. -/
theorem arrows_reach_after_scroll :
    ∃ p q, load fiveCards 1024 ⟨0, 900, 300⟩ = some p
      ∧ run Page.step p
          [.keydown .arrowRight, .relayout ⟨300, 900, 300⟩, .scroll] = some q
      ∧ ArrowsReach q := by
  have hload : load fiveCards 1024 ⟨0, 900, 300⟩ = some _ := rfl
  refine ⟨_, _, hload, rfl, ?_⟩
  refine (arrows_reflect_position_iff rfl hload
    [.keydown .arrowRight, .relayout ⟨300, 900, 300⟩, .scroll]).mpr ?_ _
    (List.prefix_refl _) _ rfl
  refine along_cons trivial rfl (along_cons trivial rfl
    (along_cons ?_ rfl trivial))
  intro _ _ _ _
  refine ⟨?_, ?_⟩ <;> decide +kernel

/-- Five cards on a desktop whose container has nothing to scroll: after a
click on the right arrow and its timer both arrows are disabled, at the
second of three positions. -/
theorem both_arrows_disabled :
    ∃ p q, load fiveCards 1024 ⟨0, 900, 900⟩ = some p
      ∧ run Page.step p [.arrowClick .right, .arrowsTimer] = some q
      ∧ q.configPending = false ∧ q.arrowsPending = 0
      ∧ q.carousel.carouselContainer.scrollPending = false
      ∧ q.carousel.viewMode = .desktop
      ∧ q.carousel.currentIndex = 1 ∧ q.carousel.maxIndex = 2
      ∧ q.carousel.leftBtn.map Button.disabled = some true
      ∧ q.carousel.rightBtn.map Button.disabled = some true :=
  ⟨_, _, rfl, rfl, by decide +kernel⟩

end SkillBuddy.SingleProduct
