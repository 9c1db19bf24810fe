/-
What the page shows is what its variables say.

# The cards

The script writes the cards' looks and the arrows' only where it displays,
and it displays after every change of a variable that they depend on. So
the document is a function of the variables: `rendered` is the card that
belongs to a place, and `Drawn` says that cards and arrows are as they
should be. `updateCarouselDisplay` makes a page drawn whatever its cards
looked like before (`Prepared.drawn`), since it sets both what it
highlights and what it does not; the handlers that do not display change
nothing a card depends on. So every handler keeps `Drawn`
(`Drawn.handled`), and with it every run.

The selected card is the one variable with a history: it changes at a
click on a card and nowhere else, so it is the third card or one that was
clicked (`cards_show_selection`).

# The arrows

The scroll-based controller writes the arrows too, but `disabled` only,
and `Drawn` speaks of their `display` and opacity. Hence an arrow's
opacity tells the position even where `disabled` does not, and the two
agree exactly if the buttons reflect the position
(`arrows_show_position`). When that is so is the subject of
`Proofs/CarouselArrows`.

# The configuration

A configuration for the view mode the page is in finds the number of
cards, the touch handlers and the place of the arrows as it would set
them, and a drawn page is drawn again by setting the arrows. It has
therefore nothing to do but that (`updateCarouselConfig_same_mode`), and
in every page of a run the mode is the width's, unless the debounced
timer is still to come (`configuration_settles`).
-/
import SkillBuddy.Proofs.CarouselArrows
import SkillBuddy.Proofs.Gestures

namespace SkillBuddy.SingleProduct

open Lib

variable {c c' : Carousel} {press : Bool} {cards : List Card}

-- ============================================================== the cards

/-- The card of the page at a place, as the variables say. -/
def rendered (c : Carousel) (index : Nat) (card : Card) : Card where
  content := card.content
  look :=
    if !card.content then card.look
    else if index = c.selectedCard then .highlighted
    else .reset
  display :=
    if c.viewMode = .mobile
        ∨ c.currentIndex ≤ index ∧ index < c.currentIndex + c.cardsPerView
    then .block
    else .none

/-- A card of the page `card` came as: a card without content keeps its
look. -/
structure Card.CameAs (now card : Card) : Prop where
  content : now.content = card.content
  look : card.content = false → now.look = card.look

/-- A card as the variables say is still the card the page came with. -/
theorem rendered_cameAs (c : Carousel) (index : Nat) (card : Card) :
    (rendered c index card).CameAs card := by
  refine ⟨rfl, fun hcontent => ?_⟩
  simp [rendered, hcontent]

/-- The cards came as `cards`. -/
structure SameCards (cards : List Card) (c : Carousel) : Prop where
  length : c.serviceCards.length = cards.length
  cameAs : ∀ (i : Nat) (now card : Card), c.serviceCards[i]? = some now →
    cards[i]? = some card → now.CameAs card

theorem sameCards_rendered
    (h : c.serviceCards = cards.mapIdx (rendered c')) :
    SameCards cards c := by
  refine ⟨by rw [h, List.length_mapIdx], ?_⟩
  intro i now card hnow hcard
  rw [h, List.getElem?_mapIdx, hcard, Option.map_some,
    Option.some.injEq] at hnow
  rw [← hnow]
  exact rendered_cameAs c' i card

/-- What `updateCarouselDisplay` makes of a card. -/
theorem highlight_displayCard {now card : Card} (hcard : now.CameAs card)
    (index : Nat) :
    (if c.selectedCard = index then highlightCard (displayCard c index now)
      else displayCard c index now) = rendered c index card := by
  obtain ⟨content, look, display⟩ := now
  obtain ⟨content', look', display'⟩ := card
  obtain ⟨rfl, hlook⟩ := hcard
  unfold displayCard rendered highlightCard resetCardStyles
  dsimp only at hlook ⊢
  cases content with
  | false =>
      obtain rfl := hlook rfl
      by_cases hmode : c.viewMode = .mobile
      · simp [hmode]
      · simp [hmode]
  | true =>
      by_cases hmode : c.viewMode = .mobile
      · by_cases hselected : c.selectedCard = index
        · simp [hmode, hselected]
        · simp [hmode, hselected, Ne.symm hselected]
      · by_cases hselected : c.selectedCard = index
        · simp [hmode, hselected]
        · simp [hmode, hselected, Ne.symm hselected]

/-- The cards that `updateCarouselDisplay` leaves are those the variables
say, whatever they looked like: it writes every card's `display`, and the
look of every card with content. -/
theorem displayed_eq_rendered (h : SameCards cards c) :
    displayed c = cards.mapIdx (rendered c) := by
  refine List.ext_getElem? fun i => ?_
  rw [displayed, List.getElem?_modify, List.getElem?_mapIdx,
    List.getElem?_mapIdx]
  cases hcard : cards[i]? with
  | none =>
      have hnone : c.serviceCards[i]? = none := by
        rw [List.getElem?_eq_none_iff] at hcard ⊢
        rw [h.length]
        exact hcard
      rw [hnone]
      rfl
  | some card =>
      obtain ⟨now, hnow⟩ : ∃ now, c.serviceCards[i]? = some now := by
        have hlength : i < c.serviceCards.length := by
          rw [h.length]
          exact (List.getElem?_eq_some_iff.mp hcard).1
        exact ⟨_, List.getElem?_eq_getElem hlength⟩
      rw [hnow, Option.map_some, Option.map_some, Option.map_eq_map,
        Option.map_some,
        highlight_displayCard (h.cameAs i now card hnow hcard)]

-- ============================================================= the arrows

/-- There is nowhere to go on a side. -/
def Carousel.atEnd (c : Carousel) : Side → Prop
  | .left => c.currentIndex ≤ 0
  | .right => c.maxIndex ≤ c.currentIndex

instance (c : Carousel) : (side : Side) → Decidable (c.atEnd side)
  | .left => inferInstanceAs (Decidable (_ ≤ _))
  | .right => inferInstanceAs (Decidable (_ ≤ _))

/-- The arrows are where the view mode has them. -/
def Placed (c : Carousel) : Prop :=
  ∀ side button, c.button side = some button →
    button.display = if c.viewMode = .mobile then .none else .flex

/-- The arrows are dimmed where there is nowhere to go. -/
def Dimmed (c : Carousel) : Prop :=
  ∀ side button, c.button side = some button →
    button.opacity = if c.atEnd side then "0.4" else "1"

/-- What `updateArrowStates` leaves of an arrow and sets. -/
theorem button_updateArrowStates (harrows : c.hasArrows = true)
    {side : Side} {button : Button}
    (hbutton : (updateArrowStates c).button side = some button) :
    ∃ old, c.button side = some old
      ∧ button = old.setDisabled (decide (c.atEnd side)) := by
  unfold updateArrowStates at hbutton
  rw [if_neg (by simp [harrows])] at hbutton
  cases side with
  | left =>
      obtain ⟨old, hold, hset⟩ := Option.map_eq_some_iff.mp hbutton
      exact ⟨old, hold, hset.symm⟩
  | right =>
      obtain ⟨old, hold, hset⟩ := Option.map_eq_some_iff.mp hbutton
      exact ⟨old, hold, hset.symm⟩

/-- `updateArrowStates` changes nothing that the ends of the row or the
place of the arrows depend on. -/
theorem updateArrowStates_atEnd (c : Carousel) (side : Side) :
    (updateArrowStates c).atEnd side ↔ c.atEnd side := by
  obtain ⟨l, r, honly, -, -⟩ := onlyArrows_updateArrowStates c
  rw [honly]
  cases side <;> exact Iff.rfl

/-- Nor does it touch the view mode. -/
theorem updateArrowStates_viewMode (c : Carousel) :
    (updateArrowStates c).viewMode = c.viewMode :=
  (onlyArrows_updateArrowStates c).sameGesture.viewMode

/-- It dims an arrow exactly if there is nowhere to go on its side. -/
theorem dimmed_updateArrowStates (harrows : c.hasArrows = true) :
    Dimmed (updateArrowStates c) := by
  intro side button hbutton
  obtain ⟨old, -, rfl⟩ := button_updateArrowStates harrows hbutton
  refine if_congr ?_ rfl rfl
  rw [decide_eq_true_iff]
  exact (updateArrowStates_atEnd c side).symm

theorem Placed.updateArrowStates (harrows : c.hasArrows = true)
    (h : Placed c) : Placed (updateArrowStates c) := by
  intro side button hbutton
  obtain ⟨old, hold, rfl⟩ := button_updateArrowStates harrows hbutton
  rw [updateArrowStates_viewMode]
  exact h side old hold

/-- The `display` an arrow is given. -/
theorem button_setDisplay {l r : Option Button} {display : Display}
    {side : Side} {button : Button}
    (hbutton : Carousel.button
      { c with
        leftBtn := l.map (Button.setDisplay · display)
        rightBtn := r.map (Button.setDisplay · display) } side
      = some button) : button.display = display := by
  cases side with
  | left =>
      obtain ⟨old, -, rfl⟩ := Option.map_eq_some_iff.mp hbutton
      rfl
  | right =>
      obtain ⟨old, -, rfl⟩ := Option.map_eq_some_iff.mp hbutton
      rfl

theorem placed_showArrows (harrows : c.hasArrows = true)
    (hmode : c.viewMode ≠ .mobile) : Placed (showArrows c) := by
  unfold showArrows
  rw [if_pos harrows]
  refine Placed.updateArrowStates ?_ ?_
  · rw [(onlyArrows_map c _ _).hasArrows]
    exact harrows
  · intro side button hbutton
    rw [button_setDisplay hbutton]
    exact (if_neg hmode).symm

theorem placed_hideArrows (harrows : c.hasArrows = true)
    (hmode : c.viewMode = .mobile) : Placed (hideArrows c) := by
  unfold hideArrows
  rw [if_pos harrows]
  intro side button hbutton
  rw [button_setDisplay hbutton]
  exact (if_pos hmode).symm

/-- The `switch` of `updateCarouselConfig` places the arrows. -/
theorem placed_configure (harrows : c.hasArrows = true) :
    Placed (configure c) := by
  unfold configure
  cases c.viewMode with
  | mobile => exact placed_hideArrows harrows rfl
  | tablet => exact placed_showArrows harrows nofun
  | desktop => exact placed_showArrows harrows nofun

-- ============================================================== the page

/-- Cards and arrows are as the variables say. -/
structure Drawn (cards : List Card) (c : Carousel) : Prop where
  cards : c.serviceCards = cards.mapIdx (rendered c)
  placed : c.hasArrows = true → Placed c
  dimmed : c.hasArrows = true → Dimmed c

/-- The cards are those of the page, the arrows are placed. -/
structure Prepared (cards : List Card) (c : Carousel) : Prop where
  cards : SameCards cards c
  placed : c.hasArrows = true → Placed c

theorem Drawn.prepared (h : Drawn cards c) : Prepared cards c :=
  ⟨sameCards_rendered h.cards, h.placed⟩

/-- `updateCarouselDisplay` draws them: it writes the cards first and then
the arrows, and the second does not change what the first depends on. -/
theorem Prepared.drawn (h : Prepared cards c) :
    Drawn cards (updateCarouselDisplay c) := by
  have honly := onlyArrows_updateCarouselDisplay c
  have harrows : (updateCarouselDisplay c).hasArrows = c.hasArrows :=
    honly.hasArrows
  refine ⟨?_, fun hhas => ?_, fun hhas => ?_⟩
  · obtain ⟨l, r, hdisplay, -, -⟩ := honly
    rw [hdisplay]
    exact displayed_eq_rendered h.cards
  · rw [harrows] at hhas
    exact Placed.updateArrowStates hhas (h.placed hhas)
  · rw [harrows] at hhas
    exact dimmed_updateArrowStates hhas

/-- Only what is drawn, and the variables it depends on, matter. -/
theorem Prepared.congr (h : Prepared cards c)
    (hcards : c'.serviceCards = c.serviceCards)
    (hleft : c'.leftBtn = c.leftBtn) (hright : c'.rightBtn = c.rightBtn)
    (hmode : c'.viewMode = c.viewMode) : Prepared cards c' where
  cards := ⟨by rw [hcards, h.cards.length], by
    rw [hcards]
    exact h.cards.cameAs⟩
  placed := by
    intro harrows side button hbutton
    rw [Carousel.hasArrows, hleft, hright] at harrows
    rw [hmode]
    refine h.placed harrows side button ?_
    cases side with
    | left => exact hleft.symm.trans hbutton
    | right => exact hright.symm.trans hbutton

/-- A drag moves no variable that is shown. -/
theorem OnlyDrag.drawn (hdrag : OnlyDrag c c') (h : Drawn cards c) :
    Drawn cards c' := by
  obtain ⟨drag, container, userSelect, rfl, -⟩ := hdrag
  exact ⟨h.cards, h.placed, h.dimmed⟩

/-- The other controller sets `disabled`, and no more. -/
theorem button_updateArrows {side : Side} {button : Button}
    (hbutton : (updateArrows c).button side = some button) :
    ∃ old, c.button side = some old ∧ button.display = old.display
      ∧ button.opacity = old.opacity := by
  cases side with
  | left =>
      obtain ⟨old, hold, rfl⟩ := Option.map_eq_some_iff.mp hbutton
      exact ⟨old, hold, rfl, rfl⟩
  | right =>
      obtain ⟨old, hold, rfl⟩ := Option.map_eq_some_iff.mp hbutton
      exact ⟨old, hold, rfl, rfl⟩

theorem Drawn.updateArrows (h : Drawn cards c) :
    Drawn cards (updateArrows c) := by
  have harrows := (onlyArrows_updateArrows c).hasArrows
  refine ⟨h.cards, fun hhas side button hbutton => ?_,
    fun hhas side button hbutton => ?_⟩
  · obtain ⟨old, hold, hdisplay, -⟩ := button_updateArrows hbutton
    rw [hdisplay]
    exact h.placed (harrows.symm.trans hhas) side old hold
  · obtain ⟨old, hold, -, hopacity⟩ := button_updateArrows hbutton
    rw [hopacity, h.dimmed (harrows.symm.trans hhas) side old hold]
    cases side <;> rfl

/-- Going to an index displays there. -/
theorem Drawn.navigateToIndex (h : Drawn cards c) (newIndex : Int) :
    Drawn cards (navigateToIndex newIndex c) :=
  Prepared.drawn (h.prepared.congr rfl rfl rfl rfl)

theorem Drawn.stepIndex (h : Drawn cards c) (side : Side) :
    Drawn cards (stepIndex c side) := by
  rcases stepIndex_cases c side with hstay | ⟨newIndex, hgo⟩
  · rw [hstay]
    exact h
  · rw [hgo]
    exact h.navigateToIndex newIndex

/-- The end of a drag goes to a neighbour, which displays, or leaves what is
shown alone. -/
theorem Drawn.handleDragEnd (h : Drawn cards c) (now : Int) :
    Drawn cards (handleDragEnd now c) := by
  rcases handleDragEnd_cases now c with hnothing | ⟨hreleased, hended⟩
  · rw [hnothing]
    exact h
  · refine hended.drawn ?_
    have hdrawn := hreleased.drawn h
    rcases swipe_cases now c.released with hstay | ⟨side, hgo⟩
    · rw [hstay]
      exact hdrawn
    · rw [hgo]
      exact hdrawn.stepIndex side

/-- A configuration draws whatever was drawn. -/
theorem SameCards.drawn_updateCarouselConfig (h : SameCards cards c)
    (innerWidth : Int) :
    Drawn cards (updateCarouselConfig innerWidth c) := by
  refine Prepared.drawn ⟨?_, fun harrows => ?_⟩
  · obtain ⟨l, r, hconfigured, -, -⟩ := onlyArrows_configured innerWidth c
    rw [hconfigured, configured, limitIndex_eq]
    exact ⟨h.length, h.cameAs⟩
  · rw [limitIndex_eq] at harrows ⊢
    have hconfigure := onlyArrows_configure
      { c with viewMode := getViewMode innerWidth }
    exact placed_configure (hconfigure.hasArrows.symm.trans harrows)

theorem Drawn.handleCardClick (h : Drawn cards c) (index : Nat) :
    Drawn cards (handleCardClick index c) := by
  unfold SingleProduct.handleCardClick
  split
  · exact h
  · exact Prepared.drawn (h.prepared.congr rfl rfl rfl rfl)

/-- Every handler leaves the page drawn. There are three kinds: those that
display, the drag, which writes nothing that is shown, and the other
controller, which writes `disabled` only. -/
theorem Drawn.handled (h : Drawn cards c) (hc : Handled press c c') :
    Drawn cards c' := by
  cases hc with
  | config innerWidth =>
      exact h.prepared.cards.drawn_updateCarouselConfig innerWidth
  | arrows => exact h.updateArrows
  | container k _ => exact ⟨h.cards, h.placed, h.dimmed⟩
  | index side => exact h.stepIndex side
  | dragStart at_ now _ => exact (onlyDrag_handleDragStart at_ now c).drawn h
  | dragMove to_ => exact (onlyDrag_handleDragMove to_ c).drawn h
  | dragEnd now => exact h.handleDragEnd now
  | cardClick index => exact h.handleCardClick index

theorem drawn_load {markup : Markup} {innerWidth : Int} {layout : Layout}
    {p : Page} (hload : load markup innerWidth layout = some p) :
    Drawn markup.serviceCards p.carousel := by
  obtain ⟨⟨c, harrows, hcarousel⟩, -⟩ := load_eq_some hload
  obtain ⟨l, r, rfl, -, -⟩ := harrows
  have hsame : SameCards markup.serviceCards
      { markup.carousel layout with leftBtn := l, rightBtn := r } := by
    refine ⟨rfl, fun i now card hnow hcard => ?_⟩
    obtain rfl := Option.some.inj (hnow.symm.trans hcard)
    exact ⟨rfl, fun _ => rfl⟩
  rw [hcarousel]
  exact hsame.drawn_updateCarouselConfig innerWidth

/-- The page a run of events leads to. -/
theorem drawn_run {p q : Page} {events : List Event}
    (h : Drawn cards p.carousel)
    (hrun : run Page.step p events = some q) : Drawn cards q.carousel :=
  Page.run_handled (I := Drawn cards) (fun _ _ _ hc hd => hd.handled hc) h
    hrun

-- ========================================================== the selection

theorem updateCarouselConfig_selectedCard (innerWidth : Int)
    (c : Carousel) :
    (updateCarouselConfig innerWidth c).selectedCard = c.selectedCard := by
  obtain ⟨l, r, hconfig, -, -⟩ :=
    onlyArrows_updateCarouselConfig innerWidth c
  rw [hconfig, configured, limitIndex_eq]
  rfl

theorem OnlyDrag.selectedCard (h : OnlyDrag c c') :
    c'.selectedCard = c.selectedCard := by
  obtain ⟨drag, container, userSelect, rfl, -⟩ := h
  rfl

theorem handleDragEnd_selectedCard (now : Int) (c : Carousel) :
    (handleDragEnd now c).selectedCard = c.selectedCard := by
  rcases handleDragEnd_cases now c with hnothing | ⟨hreleased, hended⟩
  · rw [hnothing]
  · rw [hended.selectedCard, (navigated_swipe now c.released).selectedCard,
      hreleased.selectedCard]

theorem handleCardClick_selectedCard (index : Nat) (c : Carousel) :
    (handleCardClick index c).selectedCard = c.selectedCard
      ∨ (handleCardClick index c).selectedCard = index := by
  by_cases hdragged : c.drag.hasDragged = true
  · refine .inl ?_
    unfold handleCardClick
    rw [if_pos hdragged]
  · rw [Bool.not_eq_true] at hdragged
    exact .inr (selectedCard_handleCardClick hdragged index)

/-- Only a click on a card of the page selects; the card that is clicked is
in the document, so its index is one of a card. -/
theorem selectedCard_handle (p : Page) (e : Event) :
    (p.handle e).carousel.selectedCard = p.carousel.selectedCard
      ∨ ∃ index, e = .cardClick index
        ∧ index < p.carousel.serviceCards.length
        ∧ (p.handle e).carousel.selectedCard = index := by
  cases e with
  | resize innerWidth =>
      refine .inl ?_
      rw [Page.handle, Page.onResize, Page.queueArrows_carousel]
  | configTimer =>
      refine .inl ?_
      rw [Page.handle, Page.onConfigTimer]
      split
      · exact updateCarouselConfig_selectedCard _ _
      · rfl
  | arrowsTimer =>
      refine .inl ?_
      rw [Page.handle, Page.onArrowsTimer]
      split <;> rfl
  | relayout layout => exact .inl rfl
  | scroll =>
      refine .inl ?_
      rw [Page.handle, Page.onScroll]
      dsimp only
      split
      · split <;> rfl
      · rfl
  | arrowClick side =>
      refine .inl ?_
      rw [Page.handle]
      rcases p.onArrowClick_cases side with hnothing | hboth
      · rw [hnothing]
      · rw [hboth, Page.onCarousel_carousel, Page.queueArrows_carousel]
        exact (navigated_stepIndex p.carousel side).selectedCard
  | keydown key =>
      refine .inl ?_
      rw [Page.handle, Page.onCarousel_carousel]
      rcases handleKeydown_cases key p.carousel with hnot | ⟨side, harrow⟩
      · rw [hnot]
      · rw [harrow]
        exact (navigated_stepIndex p.carousel side).selectedCard
  | press onCarousel at_ now =>
      refine .inl ?_
      rw [Page.handle, Page.onPress_carousel]
      split
      · exact handleDragStart_selectedCard at_ now p.carousel
      · rfl
  | move to_ =>
      refine .inl ?_
      rw [Page.handle, Page.onMove]
      split
      · exact (onlyDrag_handleDragMove to_ p.carousel).selectedCard
      · rfl
  | release now =>
      refine .inl ?_
      rw [Page.handle, Page.onRelease_carousel]
      split
      · exact handleDragEnd_selectedCard now p.carousel
      · rfl
  | cardClick index =>
      rw [Page.handle, Page.onCardClick]
      split
      next hindex =>
          rcases handleCardClick_selectedCard index p.carousel with
            hkept | hset
          · exact .inl hkept
          · exact .inr ⟨index, rfl, hindex, hset⟩
      · exact .inl rfl

/-- After a run the card selected is the one it was, or one that was
clicked. -/
theorem selectedCard_run {events : List Event} :
    ∀ {p q : Page}, Drawn cards p.carousel →
      run Page.step p events = some q →
      q.carousel.selectedCard = p.carousel.selectedCard
        ∨ ∃ index, .cardClick index ∈ events ∧ index < cards.length
          ∧ q.carousel.selectedCard = index := by
  induction events with
  | nil =>
      intro p q _ hrun
      obtain rfl := Option.some.inj hrun
      exact .inl rfl
  | cons e events ih =>
      intro p q hdrawn hrun
      obtain ⟨u, hstep, hrest⟩ := run_cons_eq_some.mp hrun
      obtain rfl := Option.some.inj hstep
      have hnext : Drawn cards (p.handle e).carousel :=
        drawn_run hdrawn (run_cons_eq_some.mpr ⟨_, rfl, run_nil _⟩)
      rcases ih hnext hrest with hkept | ⟨index, hmem, hindex, hset⟩
      · rw [hkept]
        rcases selectedCard_handle p e with hsame | ⟨index, he, hindex, hset⟩
        · exact .inl hsame
        · refine .inr ⟨index, ?_, ?_, hset⟩
          · rw [he]
            exact List.mem_cons_self
          · rw [hdrawn.prepared.cards.length] at hindex
            exact hindex
      · exact .inr ⟨index, List.mem_cons_of_mem e hmem, hindex, hset⟩

/-- In every page of a run each card is as the variables say, highlighted
exactly if it is the selected one; that is the third, or one that was
clicked. -/
theorem cards_show_selection {markup : Markup} {innerWidth : Int}
    {layout : Layout} {p q : Page} {events : List Event}
    (hload : load markup innerWidth layout = some p)
    (hrun : run Page.step p events = some q) :
    q.carousel.serviceCards
        = markup.serviceCards.mapIdx (rendered q.carousel)
      ∧ (q.carousel.selectedCard = 2
        ∨ ∃ index, .cardClick index ∈ events
          ∧ index < markup.serviceCards.length
          ∧ q.carousel.selectedCard = index) := by
  have hdrawn := drawn_load hload
  refine ⟨(drawn_run hdrawn hrun).cards, ?_⟩
  obtain ⟨⟨c, harrows, hcarousel⟩, -⟩ := load_eq_some hload
  have hfirst : p.carousel.selectedCard = 2 := by
    obtain ⟨l, r, rfl, -, -⟩ := harrows
    rw [hcarousel, updateCarouselConfig_selectedCard]
    rfl
  rw [← hfirst]
  exact selectedCard_run hdrawn hrun

/-- A card is clicked, and the page scrolled on. -/
theorem cards_show_selection_fiveCards :
    ∃ p q, load fiveCards 700 ⟨0, 700, 700⟩ = some p
      ∧ run Page.step p [.cardClick 1, .keydown .arrowRight] = some q
      ∧ q.carousel.serviceCards
        = fiveCards.serviceCards.mapIdx (rendered q.carousel) :=
  ⟨_, _, rfl, rfl,
    (@cards_show_selection fiveCards 700 ⟨0, 700, 700⟩ _ _
      [.cardClick 1, .keydown .arrowRight] rfl rfl).1⟩

-- ====================================================== the arrows' look

/-- Dimmed arrows tell the position, so an arrow that takes clicks looks
like one exactly if the buttons reflect the position. In range, to be at an
end or beyond it is to be at the end, which is what the buttons go by. -/
theorem Dimmed.reflect_iff (h : Dimmed c) (harrows : c.hasArrows = true)
    (hrange : InRange c) :
    ArrowsReflect c
      ↔ ∀ side button, c.button side = some button →
        (button.disabled = true ↔ button.opacity = "0.4") := by
  obtain ⟨l, r, hl, hr⟩ := (hasArrows_iff c).mp harrows
  obtain ⟨hlower, hupper⟩ := hrange
  have hopacity : ∀ side button, c.button side = some button →
      (button.opacity = "0.4" ↔ c.atEnd side) := by
    intro side button hbutton
    rw [h side button hbutton]
    by_cases hend : c.atEnd side
    · simp [hend]
    · simp [hend]
  have hleft : c.atEnd .left ↔ c.currentIndex = 0 :=
    ⟨fun hle => le_antisymm hle hlower, fun heq => heq.le⟩
  have hright : c.atEnd .right ↔ c.currentIndex = c.maxIndex :=
    ⟨fun hle => le_antisymm hupper hle, fun heq => heq.ge⟩
  constructor
  · intro hreflect side button hbutton
    obtain ⟨l', r', hl', hr', hdl, hdr⟩ := hreflect
    rw [hopacity side button hbutton]
    cases side with
    | left =>
        obtain rfl := Option.some.inj (hl'.symm.trans hbutton)
        exact hdl.trans hleft.symm
    | right =>
        obtain rfl := Option.some.inj (hr'.symm.trans hbutton)
        exact hdr.trans hright.symm
  · intro hsame
    refine ⟨l, r, hl, hr, ?_, ?_⟩
    · rw [hsame .left l hl, hopacity .left l hl, hleft]
    · rw [hsame .right r hr, hopacity .right r hr, hright]

/-- No handler removes a button. -/
theorem hasArrows_run {p q : Page} {events : List Event}
    (h : p.carousel.hasArrows = true)
    (hrun : run Page.step p events = some q) :
    q.carousel.hasArrows = true :=
  Page.run_handled (I := fun c => c.hasArrows = true)
    (fun _ _ _ hc harrows => hasArrows_handled hc harrows) h hrun

theorem hasArrows_load {markup : Markup} {innerWidth : Int}
    {layout : Layout} {p : Page} (hleft : markup.leftBtn.isSome = true)
    (hright : markup.rightBtn.isSome = true)
    (hload : load markup innerWidth layout = some p) :
    p.carousel.hasArrows = true := by
  obtain ⟨⟨c, harrows, hcarousel⟩, -⟩ := load_eq_some hload
  rw [hcarousel, (onlyArrows_updateCarouselConfig innerWidth c).hasArrows,
    configured, limitIndex_eq]
  show c.hasArrows = true
  rw [harrows.hasArrows, Carousel.hasArrows, Bool.and_eq_true]
  exact ⟨hleft, hright⟩

/-- In every page of a run on a page with both arrows, the arrows are
hidden exactly in mobile mode, and dimmed exactly where there is nowhere
to go, whichever controller wrote them last; `disabled` says the same
exactly if the buttons reflect the position. -/
theorem arrows_show_position {markup : Markup} {innerWidth : Int}
    {layout : Layout} {p q : Page} {events : List Event}
    (hleft : markup.leftBtn.isSome = true)
    (hright : markup.rightBtn.isSome = true)
    (hload : load markup innerWidth layout = some p)
    (hrun : run Page.step p events = some q) :
    Placed q.carousel ∧ Dimmed q.carousel
      ∧ (ArrowsReflect q.carousel
        ↔ ∀ side button, q.carousel.button side = some button →
          (button.disabled = true ↔ button.opacity = "0.4")) := by
  have harrows := hasArrows_run (hasArrows_load hleft hright hload) hrun
  have hdrawn := drawn_run (drawn_load hload) hrun
  have hrange := (showsWindow_run (showsWindow_load hload) hrun).inRange
  have hdimmed := hdrawn.dimmed harrows
  exact ⟨hdrawn.placed harrows, hdimmed,
    hdimmed.reflect_iff harrows hrange⟩

/-- Both arrows disabled at the second of three positions: none is
dimmed. -/
theorem arrows_show_position_fiveCards :
    ∃ p q, load fiveCards 1024 ⟨0, 900, 900⟩ = some p
      ∧ run Page.step p [.arrowClick .right, .arrowsTimer] = some q
      ∧ Dimmed q.carousel :=
  ⟨_, _, rfl, rfl,
    (@arrows_show_position fiveCards 1024 ⟨0, 900, 900⟩ _ _
      [.arrowClick .right, .arrowsTimer] rfl rfl rfl rfl).2.1⟩

-- ===================================================== the configuration

/-- Displaying what is drawn changes no card. -/
theorem Drawn.displayed_eq (h : Drawn cards c) :
    displayed c = c.serviceCards :=
  (displayed_eq_rendered h.prepared.cards).trans h.cards.symm

theorem Drawn.updateArrowStates (h : Drawn cards c) :
    Drawn cards (updateArrowStates c) := by
  have honly := onlyArrows_updateArrowStates c
  have harrows := honly.hasArrows
  refine ⟨?_, fun hhas => ?_, fun hhas => ?_⟩
  · obtain ⟨l, r, hset, -, -⟩ := honly
    rw [hset]
    exact h.cards
  · rw [harrows] at hhas
    exact Placed.updateArrowStates hhas (h.placed hhas)
  · rw [harrows] at hhas
    exact dimmed_updateArrowStates hhas

/-- What is drawn is drawn again by setting the arrows. -/
theorem Drawn.updateCarouselDisplay (h : Drawn cards c) :
    updateCarouselDisplay c = SingleProduct.updateArrowStates c := by
  show SingleProduct.updateArrowStates { c with serviceCards := displayed c }
    = _
  rw [h.displayed_eq]

/-- A button is given the `display` it has. -/
theorem map_setDisplay {button : Option Button} {display : Display}
    (h : ∀ b, button = some b → b.display = display) :
    button.map (Button.setDisplay · display) = button := by
  cases button with
  | none => rfl
  | some b => rw [Option.map_some, Button.setDisplay, ← h b rfl]

/-- Arrows that are placed are not moved. -/
theorem Placed.map_setDisplay (h : Placed c) {display : Display}
    (hdisplay : (if c.viewMode = .mobile then .none else .flex) = display) :
    { c with
      leftBtn := c.leftBtn.map (Button.setDisplay · display)
      rightBtn := c.rightBtn.map (Button.setDisplay · display) } = c := by
  have hleft : c.leftBtn.map (Button.setDisplay · display) = c.leftBtn :=
    SingleProduct.map_setDisplay fun b hb => (h .left b hb).trans hdisplay
  have hright : c.rightBtn.map (Button.setDisplay · display) = c.rightBtn :=
    SingleProduct.map_setDisplay fun b hb => (h .right b hb).trans hdisplay
  rw [hleft, hright]

/-- Hidden arrows are hidden again to no effect. -/
theorem hideArrows_eq_self (hmode : c.viewMode = .mobile)
    (h : c.hasArrows = true → Placed c) : hideArrows c = c := by
  unfold hideArrows
  split
  next harrows => exact (h harrows).map_setDisplay (if_pos hmode)
  · rfl

/-- Shown arrows are shown again by setting their states. -/
theorem showArrows_eq (hmode : c.viewMode ≠ .mobile)
    (h : c.hasArrows = true → Placed c) :
    showArrows c = updateArrowStates c := by
  unfold showArrows
  split
  next harrows => rw [(h harrows).map_setDisplay (if_neg hmode)]
  next hnone =>
      unfold updateArrowStates
      rw [if_pos (by simp [hnone])]

/-- For the mode it is in, the `switch` sets the arrows at most: size and
touch handlers are those of the mode already, and so is the place of the
arrows. -/
theorem configure_eq (hsize : c.cardsPerView = c.viewMode.cardsPerView)
    (hattached : c.touchHandlers = (c.viewMode != .desktop))
    (h : c.hasArrows = true → Placed c) :
    configure c = c ∨ configure c = updateArrowStates c := by
  obtain ⟨cards, l, r, k, u, attached, i, s, size, mode, d⟩ := c
  dsimp only at hsize hattached
  subst hsize hattached
  cases mode with
  | mobile => exact .inl (hideArrows_eq_self rfl h)
  | tablet => exact .inr (showArrows_eq nofun h)
  | desktop => exact .inr (showArrows_eq nofun h)

theorem limitIndex_eq_self (hrange : InRange c) : limitIndex c = c := by
  rw [limitIndex_eq, min_eq_left hrange.2]

/-- A configuration for the mode the page is in sets the arrows, and does
nothing else. -/
theorem updateCarouselConfig_same_mode (hdrawn : Drawn cards c)
    (hsize : c.cardsPerView = c.viewMode.cardsPerView)
    (hcoherent : Coherent c) (hrange : InRange c) {innerWidth : Int}
    (hmode : getViewMode innerWidth = c.viewMode) :
    updateCarouselConfig innerWidth c = updateArrowStates c := by
  have hsame : { c with viewMode := getViewMode innerWidth } = c := by
    rw [hmode]
  unfold updateCarouselConfig
  rw [hsame]
  have hstates : InRange (updateArrowStates c) := by
    obtain ⟨l, r, honly, -, -⟩ := onlyArrows_updateArrowStates c
    rw [honly]
    exact hrange
  rcases configure_eq hsize hcoherent.handlers hdrawn.placed with
    hstay | harrows
  · rw [hstay, limitIndex_eq_self hrange, hdrawn.updateCarouselDisplay]
  · rw [harrows, limitIndex_eq_self hstates,
      hdrawn.updateArrowStates.updateCarouselDisplay,
      updateArrowStates_idem]

/-- Unless a configuration is pending, the page is in the mode that belongs
to its width. -/
def Page.Settled (p : Page) : Prop :=
  p.configPending = false → p.carousel.viewMode = getViewMode p.innerWidth

/-- What the mode and its configuration depend on stays. -/
structure Page.SameMode (p q : Page) : Prop where
  innerWidth : q.innerWidth = p.innerWidth
  configPending : q.configPending = p.configPending
  viewMode : q.carousel.viewMode = p.carousel.viewMode

theorem Page.SameMode.settled {p q : Page} (h : p.SameMode q)
    (hsettled : p.Settled) : q.Settled := by
  intro hpending
  rw [h.viewMode, h.innerWidth]
  exact hsettled (h.configPending.symm.trans hpending)

theorem queueArrows_innerWidth (p : Page) :
    p.queueArrows.innerWidth = p.innerWidth := by
  unfold Page.queueArrows
  split <;> rfl

theorem updateCarouselConfig_viewMode (innerWidth : Int) (c : Carousel) :
    (updateCarouselConfig innerWidth c).viewMode
      = getViewMode innerWidth := by
  obtain ⟨l, r, hconfig, -, -⟩ :=
    onlyArrows_updateCarouselConfig innerWidth c
  rw [hconfig, configured, limitIndex_eq]
  rfl

theorem OnlyDrag.viewMode (h : OnlyDrag c c') :
    c'.viewMode = c.viewMode := by
  obtain ⟨drag, container, userSelect, rfl, -⟩ := h
  rfl

/-- Only a resize and its timer concern the mode. -/
theorem sameMode_handle (p : Page) {e : Event} (htimer : e ≠ .configTimer)
    (hresize : ∀ innerWidth, e ≠ .resize innerWidth) :
    p.SameMode (p.handle e) := by
  cases e with
  | resize innerWidth => exact absurd rfl (hresize innerWidth)
  | configTimer => exact absurd rfl htimer
  | arrowsTimer =>
      rw [Page.handle, Page.onArrowsTimer]
      split <;> exact ⟨rfl, rfl, rfl⟩
  | relayout layout => exact ⟨rfl, rfl, rfl⟩
  | scroll =>
      rw [Page.handle, Page.onScroll]
      dsimp only
      split
      · split <;> exact ⟨rfl, rfl, rfl⟩
      · exact ⟨rfl, rfl, rfl⟩
  | arrowClick side =>
      rw [Page.handle]
      rcases p.onArrowClick_cases side with hnothing | hboth
      · rw [hnothing]
        exact ⟨rfl, rfl, rfl⟩
      · rw [hboth]
        refine ⟨queueArrows_innerWidth p, Page.queueArrows_configPending p,
          ?_⟩
        rw [Page.onCarousel_carousel, Page.queueArrows_carousel]
        exact (navigated_stepIndex p.carousel side).sameGesture.viewMode
  | keydown key =>
      exact ⟨rfl, rfl, (quiet_handleKeydown key p.carousel).viewMode⟩
  | press onCarousel at_ now =>
      rw [Page.handle, Page.onPress]
      dsimp only
      split
      · exact ⟨rfl, rfl,
          (onlyDrag_handleDragStart at_ now p.carousel).viewMode⟩
      · exact ⟨rfl, rfl, rfl⟩
  | move to_ =>
      rw [Page.handle, Page.onMove]
      split
      · exact ⟨rfl, rfl, (onlyDrag_handleDragMove to_ p.carousel).viewMode⟩
      · exact ⟨rfl, rfl, rfl⟩
  | release now =>
      rw [Page.handle, Page.onRelease]
      dsimp only
      split
      · split
        · exact ⟨rfl, rfl, (quiet_handleDragEnd now p.carousel).viewMode⟩
        · exact ⟨rfl, rfl, rfl⟩
      · exact ⟨rfl, rfl, rfl⟩
  | cardClick index =>
      rw [Page.handle, Page.onCardClick]
      split
      · exact ⟨rfl, rfl,
          (sameGesture_handleCardClick index p.carousel).viewMode⟩
      · exact ⟨rfl, rfl, rfl⟩

/-- A resize sets the timer, and the timer's handler configures for the
width it finds then. -/
theorem Page.Settled.handle {p : Page} (h : p.Settled) (e : Event) :
    (p.handle e).Settled := by
  by_cases htimer : e = .configTimer
  · subst htimer
    rw [Page.handle, Page.onConfigTimer]
    split
    · exact fun _ => updateCarouselConfig_viewMode _ _
    · exact h
  · by_cases hresize : ∃ innerWidth, e = .resize innerWidth
    · obtain ⟨innerWidth, rfl⟩ := hresize
      intro hpending
      have hset : (p.onResize innerWidth).configPending = true :=
        Page.queueArrows_configPending _
      exact absurd (hset.symm.trans hpending) Bool.noConfusion
    · refine (sameMode_handle p htimer fun innerWidth he => ?_).settled h
      exact hresize ⟨innerWidth, he⟩

theorem settled_load {markup : Markup} {innerWidth : Int} {layout : Layout}
    {p : Page} (hload : load markup innerWidth layout = some p) :
    p.Settled := by
  unfold load at hload
  split at hload
  · cases hload
  · obtain rfl := Option.some.inj hload
    exact fun _ => updateCarouselConfig_viewMode _ _

/-- In every page of a run: unless its timer is set, the configuration is
that of the window's width; and a configuration for a width of the mode
the page is in only sets the arrows. -/
theorem configuration_settles {markup : Markup} {innerWidth : Int}
    {layout : Layout} {p q : Page} {events : List Event}
    (hload : load markup innerWidth layout = some p)
    (hrun : run Page.step p events = some q) :
    (q.configPending = false →
        q.carousel.viewMode = getViewMode q.innerWidth)
      ∧ ∀ width, getViewMode width = q.carousel.viewMode →
        updateCarouselConfig width q.carousel
          = updateArrowStates q.carousel := by
  have hsettled : q.Settled := by
    refine run_invariant_all (I := Page.Settled) ?_ (settled_load hload) hrun
    intro p e q hp hstep
    obtain rfl := Option.some.inj hstep
    exact hp.handle e
  refine ⟨hsettled, fun width hmode => ?_⟩
  have hwindow := showsWindow_run (showsWindow_load hload) hrun
  have hreach : q.Reachable := ⟨markup, innerWidth, layout, p, events,
    hload, hrun⟩
  exact updateCarouselConfig_same_mode
    (drawn_run (drawn_load hload) hrun) hwindow.windowValid.mode
    (coherent_reachable hreach) hwindow.inRange hmode

/-- A desktop page that is made narrower, and wide again. -/
theorem configuration_settles_fiveCards :
    ∃ p q, load fiveCards 1024 ⟨0, 900, 300⟩ = some p
      ∧ run Page.step p
          [.keydown .arrowRight, .resize 700, .configTimer, .resize 800,
            .resize 1000, .configTimer] = some q
      ∧ updateCarouselConfig 900 q.carousel
        = updateArrowStates q.carousel :=
  ⟨_, _, rfl, rfl,
    (@configuration_settles fiveCards 1024 ⟨0, 900, 300⟩ _ _
      [.keydown .arrowRight, .resize 700, .configTimer, .resize 800,
        .resize 1000, .configTimer] rfl rfl).2 900 rfl⟩

end SkillBuddy.SingleProduct
