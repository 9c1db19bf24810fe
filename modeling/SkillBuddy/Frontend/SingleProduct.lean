/-
`wwwroot/scripts/single-product.js`: the service carousel of the product
page.

# Two controllers

The script has two. The index-based one starts with `DOMContentLoaded`;
it keeps the index of the first card in view, shows the cards of the
window by their `display`, and takes arrows, keys, swipes and card
clicks. The scroll-based one is set up before that, as the script runs,
for a container that holds both buttons; it scrolls the container and
sets the buttons from the scroll position. Both write `disabled` of the
same two buttons.

# The page

`Carousel` has the variables of the first controller and what the two
write of the document; its functions are those of the script. `Page` adds
the window's width, the timers that are set, the scroll event that is
due, and the pointers that are down. An `Event` is what the browser
dispatches; one that cannot happen (a click on a disabled button, a timer
that is not set) leaves the page as it is. What the browser lays out is
not ours to compute, so `relayout` may report anything at any time.

Left out is what nothing reads back: the cards' colours beyond which look
they have, the amount of a `scrollBy`, the `tabindex` and the console.
-/
import SkillBuddy.Lib.Run
import Mathlib.Algebra.Order.Ring.Rat
import Mathlib.Algebra.Order.Group.Abs

namespace SkillBuddy.SingleProduct

-- =============================================================== document

/-- `viewMode`. -/
inductive ViewMode where
  | mobile
  | tablet
  | desktop
  deriving DecidableEq, Repr

/-- A `style.display`. -/
inductive Display where
  | unset
  | none
  | block
  | flex
  deriving DecidableEq, Repr

/-- A `style.userSelect`. -/
inductive UserSelect where
  | unset
  | none
  deriving DecidableEq, Repr

/-- The look of a card: as the page came, or as `resetCardStyles` or
`highlightCard` left it. -/
inductive Look where
  | initial
  | reset
  | highlighted
  deriving DecidableEq, Repr

/-- A `.service-card`; `content`: it has a `.service-card-content`. -/
structure Card where
  content : Bool := true
  look : Look := .initial
  display : Display := .unset
  deriving DecidableEq, Repr

/-- An arrow button. -/
structure Button where
  disabled : Bool := false
  display : Display := .unset
  opacity : String := ""
  deriving DecidableEq, Repr

/-- What the layout reports of the container. -/
structure Layout where
  scrollLeft : ℚ
  scrollWidth : Int
  clientWidth : Int
  deriving DecidableEq

/-- The `.service-carousel-container`: its layout, whether a scroll event
is due for it, and whether it has the class `dragging`. -/
structure Container where
  layout : Layout
  scrollPending : Bool
  dragging : Bool
  deriving DecidableEq

/-- A new layout; a scroll event is due if the position moved. -/
def Container.relayout (container : Container) (layout : Layout) :
    Container :=
  { container with
    layout
    scrollPending :=
      container.scrollPending
        || layout.scrollLeft != container.layout.scrollLeft }

/-- Assigning `scrollLeft`: the position is put into the scroll range. -/
def Container.setScrollLeft (container : Container) (scrollLeft : ℚ) :
    Container :=
  let range := container.layout.scrollWidth - container.layout.clientWidth
  container.relayout
    { container.layout with scrollLeft := max 0 (min scrollLeft range) }

/-- The touch/drag handling variables. -/
structure Drag where
  startX : ℚ := 0
  startY : ℚ := 0
  scrollLeft : ℚ := 0
  isDragging : Bool := false
  dragStartTime : Int := 0
  dragDistance : ℚ := 0
  hasDragged : Bool := false
  deriving DecidableEq

/-- The index-based controller and the elements it works on;
`touchHandlers`: its mouse and touch listeners are attached. -/
structure Carousel where
  serviceCards : List Card
  leftBtn : Option Button
  rightBtn : Option Button
  carouselContainer : Container
  userSelect : UserSelect
  touchHandlers : Bool
  currentIndex : Int
  selectedCard : Nat
  cardsPerView : Int
  viewMode : ViewMode
  drag : Drag
  deriving DecidableEq

namespace Carousel

-- ================================================================ display

/-- `Math.max(0, serviceCards.length - cardsPerView)`. -/
def maxIndex (c : Carousel) : Int :=
  max 0 (c.serviceCards.length - c.cardsPerView)

/-- `leftBtn && rightBtn`. -/
def hasArrows (c : Carousel) : Bool :=
  c.leftBtn.isSome && c.rightBtn.isSome

end Carousel

/-- An arrow's `disabled`, and the opacity that goes with it. -/
def Button.setDisabled (button : Button) (disabled : Bool) : Button :=
  { button with disabled, opacity := if disabled then "0.4" else "1" }

/-- An arrow's `display`. -/
def Button.setDisplay (button : Button) (display : Display) : Button :=
  { button with display }

/-- `updateArrowStates`. -/
def updateArrowStates (c : Carousel) : Carousel :=
  if !c.hasArrows then c
  else
    { c with
      leftBtn := c.leftBtn.map
        (Button.setDisabled · (decide (c.currentIndex ≤ 0)))
      rightBtn := c.rightBtn.map
        (Button.setDisabled · (decide (c.currentIndex ≥ c.maxIndex))) }

/-- `showArrows`. -/
def showArrows (c : Carousel) : Carousel :=
  if c.hasArrows then
    updateArrowStates
      { c with
        leftBtn := c.leftBtn.map (Button.setDisplay · .flex)
        rightBtn := c.rightBtn.map (Button.setDisplay · .flex) }
  else c

/-- `hideArrows`. -/
def hideArrows (c : Carousel) : Carousel :=
  if c.hasArrows then
    { c with
      leftBtn := c.leftBtn.map (Button.setDisplay · .none)
      rightBtn := c.rightBtn.map (Button.setDisplay · .none) }
  else c

/-- `resetCardStyles`. -/
def resetCardStyles (card : Card) : Card :=
  if !card.content then card else { card with look := .reset }

/-- `highlightCard`. -/
def highlightCard (card : Card) : Card :=
  if !card.content then card else { card with look := .highlighted }

/-- One pass of the loop of `updateCarouselDisplay`. -/
def displayCard (c : Carousel) (index : Nat) (card : Card) : Card :=
  let card := resetCardStyles card
  if c.viewMode = .mobile then { card with display := .block }
  else
    let isVisible :=
      c.currentIndex ≤ index ∧ index < c.currentIndex + c.cardsPerView
    { card with display := if isVisible then .block else .none }

/-- `updateCarouselDisplay`. -/
def updateCarouselDisplay (c : Carousel) : Carousel :=
  let cards := c.serviceCards.mapIdx (displayCard c)
  updateArrowStates
    { c with serviceCards := cards.modify c.selectedCard highlightCard }

/-- `navigateToIndex`. -/
def navigateToIndex (newIndex : Int) (c : Carousel) : Carousel :=
  updateCarouselDisplay
    { c with currentIndex := max 0 (min newIndex c.maxIndex) }

-- ========================================================== configuration

/-- `getViewMode`. -/
def getViewMode (width : Int) : ViewMode :=
  if width ≤ 576 then .mobile
  else if width ≤ 768 then .tablet
  else .desktop

/-- `setupTouchHandlers`. -/
def setupTouchHandlers (c : Carousel) : Carousel :=
  { c with touchHandlers := true }

/-- `removeTouchHandlers`. -/
def removeTouchHandlers (c : Carousel) : Carousel :=
  { c with touchHandlers := false }

/-- The `switch` of `updateCarouselConfig`. -/
def configure (c : Carousel) : Carousel :=
  match c.viewMode with
  | .mobile => hideArrows (setupTouchHandlers { c with cardsPerView := 1 })
  | .tablet => showArrows (setupTouchHandlers { c with cardsPerView := 2 })
  | .desktop => showArrows (removeTouchHandlers { c with cardsPerView := 3 })

/-- Reset the current index if it exceeds the new limits. -/
def limitIndex (c : Carousel) : Carousel :=
  if c.currentIndex > c.maxIndex then { c with currentIndex := c.maxIndex }
  else c

/-- `updateCarouselConfig`, at a window of width `innerWidth`. -/
def updateCarouselConfig (innerWidth : Int) (c : Carousel) : Carousel :=
  updateCarouselDisplay
    (limitIndex (configure { c with viewMode := getViewMode innerWidth }))

-- =============================================================== gestures

/-- A point of the screen. -/
structure Point where
  clientX : ℚ
  clientY : ℚ
  deriving DecidableEq

/-- `handleDragStart`. -/
def handleDragStart (at_ : Point) (now : Int) (c : Carousel) : Carousel :=
  if c.viewMode = .desktop then c
  else
    { c with
      drag :=
        { c.drag with
          isDragging := true
          hasDragged := false
          dragStartTime := now
          startX := at_.clientX
          startY := at_.clientY
          scrollLeft := c.carouselContainer.layout.scrollLeft }
      carouselContainer := { c.carouselContainer with dragging := true }
      userSelect := .none }

/-- `handleDragMove`. -/
def handleDragMove (to_ : Point) (c : Carousel) : Carousel :=
  if !c.drag.isDragging || c.viewMode = .desktop then c
  else
    let deltaX := to_.clientX - c.drag.startX
    let deltaY := to_.clientY - c.drag.startY
    if |deltaY| > |deltaX| then c
    else if |deltaX| > 3 then
      let momentum : ℚ := if c.viewMode = .mobile then 1 else 7 / 10
      { c with
        drag := { c.drag with hasDragged := true, dragDistance := deltaX }
        carouselContainer :=
          c.carouselContainer.setScrollLeft
            (c.drag.scrollLeft - deltaX * momentum) }
    else c

/-- The swipe of `handleDragEnd`: on to the neighbour, if there is one. -/
def swipe (now : Int) (c : Carousel) : Carousel :=
  let dragDistance := c.drag.dragDistance
  let dragDuration := now - c.drag.dragStartTime
  let isQuickSwipe := dragDuration < 200 ∧ |dragDistance| > 30
  if isQuickSwipe ∨ |dragDistance| > 100 then
    if dragDistance > 0 ∧ c.currentIndex > 0 then
      navigateToIndex (c.currentIndex - 1) c
    else if dragDistance < 0
        ∧ c.currentIndex < c.serviceCards.length - c.cardsPerView then
      navigateToIndex (c.currentIndex + 1) c
    else c
  else c

/-- `handleDragEnd`. -/
def handleDragEnd (now : Int) (c : Carousel) : Carousel :=
  if !c.drag.isDragging || c.viewMode = .desktop then c
  else
    let c :=
      swipe now
        { c with
          drag := { c.drag with isDragging := false }
          carouselContainer := { c.carouselContainer with dragging := false }
          userSelect := .unset }
    { c with drag := { c.drag with dragDistance := 0, hasDragged := false } }

/-- `handleCardClick`. -/
def handleCardClick (index : Nat) (c : Carousel) : Carousel :=
  if c.drag.hasDragged then c
  else updateCarouselDisplay { c with selectedCard := index }

-- ================================================================= arrows

/-- Which arrow. -/
inductive Side where
  | left
  | right
  deriving DecidableEq, Repr

/-- The button of a side. -/
def Carousel.button (c : Carousel) : Side → Option Button
  | .left => c.leftBtn
  | .right => c.rightBtn

/-- The index-based controller's click listeners, and what the arrow keys
do. -/
def stepIndex (c : Carousel) : Side → Carousel
  | .left =>
      if c.currentIndex > 0 then navigateToIndex (c.currentIndex - 1) c
      else c
  | .right =>
      if c.currentIndex < c.maxIndex then
        navigateToIndex (c.currentIndex + 1) c
      else c

/-- An `e.key`. -/
inductive Key where
  | arrowLeft
  | arrowRight
  | other
  deriving DecidableEq, Repr

/-- The keydown listener. -/
def handleKeydown (key : Key) (c : Carousel) : Carousel :=
  if c.viewMode = .mobile then c
  else
    match key with
    | .arrowLeft => stepIndex c .left
    | .arrowRight => stepIndex c .right
    | .other => c

/-- `updateArrows` of the scroll-based controller. -/
def updateArrows (c : Carousel) : Carousel :=
  let layout := c.carouselContainer.layout
  let max_ : Int := max 0 (layout.scrollWidth - layout.clientWidth - 1)
  { c with
    leftBtn := c.leftBtn.map fun button =>
      { button with disabled := decide (layout.scrollLeft ≤ 0) }
    rightBtn := c.rightBtn.map fun button =>
      { button with disabled := decide (layout.scrollLeft ≥ max_) } }

-- =================================================================== page

/-- The page: `configPending`: the debounced configuration's timer is
set; `arrowsPending`: so many timers of `updateArrows` are; `scrollBased`:
the scroll-based controller is set up; `pressed`: so many pointers are
down. -/
structure Page where
  carousel : Carousel
  innerWidth : Int
  configPending : Bool
  arrowsPending : Nat
  scrollBased : Bool
  pressed : Nat
  deriving DecidableEq

/-- What the script finds in the document; `inside`: the buttons that are
there lie inside the container. -/
structure Markup where
  serviceCards : List Card
  leftBtn : Option Button
  rightBtn : Option Button
  inside : Bool
  deriving DecidableEq

/-- The container holds both buttons. -/
def Markup.scrollBased (markup : Markup) : Bool :=
  markup.inside && markup.leftBtn.isSome && markup.rightBtn.isSome

/-- The variables' first values. -/
def Markup.carousel (markup : Markup) (layout : Layout) : Carousel where
  serviceCards := markup.serviceCards
  leftBtn := markup.leftBtn
  rightBtn := markup.rightBtn
  carouselContainer := ⟨layout, false, false⟩
  userSelect := .unset
  touchHandlers := false
  currentIndex := 0
  selectedCard := 2
  cardsPerView := 3
  viewMode := .desktop
  drag := {}

/-- The page once the script and the `DOMContentLoaded` listener ran; the
index-based controller gives up on a page without cards. -/
def load (markup : Markup) (innerWidth : Int) (layout : Layout) :
    Option Page :=
  if markup.serviceCards.isEmpty then none
  else
    let c := markup.carousel layout
    let c := if markup.scrollBased then updateArrows c else c
    some
      { carousel := updateCarouselConfig innerWidth c
        innerWidth
        configPending := false
        arrowsPending := 0
        scrollBased := markup.scrollBased
        pressed := 0 }

/-- What the browser dispatches. -/
inductive Event where
  | resize (innerWidth : Int)
  | configTimer
  | arrowsTimer
  | relayout (layout : Layout)
  | scroll
  | arrowClick (side : Side)
  | keydown (key : Key)
  | press (onCarousel : Bool) (at_ : Point) (now : Int)
  | move (to_ : Point)
  | release (now : Int)
  | cardClick (index : Nat)
  deriving DecidableEq

namespace Page

/-- A function of the index-based controller runs. -/
def onCarousel (p : Page) (f : Carousel → Carousel) : Page :=
  { p with carousel := f p.carousel }

/-- A timer of `updateArrows` is set, by the scroll-based controller. -/
def queueArrows (p : Page) : Page :=
  if p.scrollBased then { p with arrowsPending := p.arrowsPending + 1 }
  else p

/-- The resize listeners: one restarts its timer, one sets another. -/
def onResize (p : Page) (innerWidth : Int) : Page :=
  { p with innerWidth, configPending := true }.queueArrows

/-- The debounced configuration. -/
def onConfigTimer (p : Page) : Page :=
  if p.configPending then
    { p with configPending := false }.onCarousel
      (updateCarouselConfig p.innerWidth)
  else p

/-- A timer of `updateArrows`. -/
def onArrowsTimer (p : Page) : Page :=
  if 0 < p.arrowsPending then
    { p with arrowsPending := p.arrowsPending - 1 }.onCarousel updateArrows
  else p

/-- The layout changes. -/
def onRelayout (p : Page) (layout : Layout) : Page :=
  p.onCarousel fun c =>
    { c with carouselContainer := c.carouselContainer.relayout layout }

/-- The scroll event that is due. -/
def onScroll (p : Page) : Page :=
  if p.carousel.carouselContainer.scrollPending then
    let p := p.onCarousel fun c =>
      { c with
        carouselContainer :=
          { c.carouselContainer with scrollPending := false } }
    if p.scrollBased then p.onCarousel updateArrows else p
  else p

/-- A click on an arrow that is there and enabled: the scroll-based
controller's listener was added first. -/
def onArrowClick (p : Page) (side : Side) : Page :=
  match p.carousel.button side with
  | none => p
  | some button =>
      if button.disabled then p
      else p.queueArrows.onCarousel (stepIndex · side)

/-- A pointer goes down, on the container or elsewhere. -/
def onPress (p : Page) (onCarousel : Bool) (at_ : Point) (now : Int) :
    Page :=
  let p := { p with pressed := p.pressed + 1 }
  if onCarousel && p.carousel.touchHandlers then
    p.onCarousel (handleDragStart at_ now)
  else p

/-- A pointer moves, pressed or not. -/
def onMove (p : Page) (to_ : Point) : Page :=
  if p.carousel.touchHandlers then p.onCarousel (handleDragMove to_) else p

/-- A pointer that is down goes up. -/
def onRelease (p : Page) (now : Int) : Page :=
  if 0 < p.pressed then
    let p := { p with pressed := p.pressed - 1 }
    if p.carousel.touchHandlers then p.onCarousel (handleDragEnd now) else p
  else p

/-- A click on a card. -/
def onCardClick (p : Page) (index : Nat) : Page :=
  if index < p.carousel.serviceCards.length then
    p.onCarousel (handleCardClick index)
  else p

/-- The page after an event. -/
def handle (p : Page) : Event → Page
  | .resize innerWidth => p.onResize innerWidth
  | .configTimer => p.onConfigTimer
  | .arrowsTimer => p.onArrowsTimer
  | .relayout layout => p.onRelayout layout
  | .scroll => p.onScroll
  | .arrowClick side => p.onArrowClick side
  | .keydown key => p.onCarousel (handleKeydown key)
  | .press onCarousel at_ now => p.onPress onCarousel at_ now
  | .move to_ => p.onMove to_
  | .release now => p.onRelease now
  | .cardClick index => p.onCardClick index

/-- One event. -/
def step (p : Page) (e : Event) : Option Page := some (p.handle e)

/-- A page some run of events leads to from a loaded page. -/
def Reachable (p : Page) : Prop :=
  ∃ markup innerWidth layout p₀ events,
    load markup innerWidth layout = some p₀
      ∧ Lib.run step p₀ events = some p

end Page

end SkillBuddy.SingleProduct
