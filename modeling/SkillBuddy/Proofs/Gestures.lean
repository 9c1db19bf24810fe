/-
What a gesture leaves behind.

# Coherence

A press in the container starts a drag, moves go on with it, the release
ends it. Of its traces (`isDragging`, the class `dragging`, the text
selection turned off, the distance) none outlives the others
(`Coherent`), so a drag is over as soon as `isDragging` is false. The
handlers set and reset them together; a configuration leaves them all.

# The drag guard

`handleCardClick` takes no click while `hasDragged` is set, and a drag
recognised by `handleDragMove` sets it (`hasDragged_moves`). But
`handleDragEnd` resets it, and the browser dispatches the click after the
release: the click selects, whatever the gesture was
(`click_after_gesture`). So the guard does what it is for exactly if
there was nothing to guard against, or the click selects the card that is
selected (`drag_guard_iff`).

# The end of a drag

Only `handleDragEnd` ends a drag, and in desktop mode it is neither
attached nor willing. A drag is left behind exactly where the
configuration makes the page a desktop page during the gesture and it
still is one at the release (`drag_ends_with_gesture_iff`). The invariant
is `Held`: a drag that goes on has a pointer down. A release that is seen
keeps it; one that is not breaks it with the last pointer, and at that
point of the run the traces are there with nothing pressed.
-/
import SkillBuddy.Proofs.CarouselWindow

namespace SkillBuddy.SingleProduct

open Lib

variable {c c' : Carousel} {press : Bool}

-- ============================================================== coherence

/-- The traces of a drag agree, and the listeners belong to the mode. -/
structure Coherent (c : Carousel) : Prop where
  dragging : c.carouselContainer.dragging = c.drag.isDragging
  userSelect : c.userSelect = .none ↔ c.drag.isDragging = true
  distance : c.drag.isDragging = false → c.drag.dragDistance = 0
  handlers : c.touchHandlers = (c.viewMode != .desktop)

/-- What leaves the gesture where it was leaves its traces together. -/
theorem SameGesture.coherent (hsame : SameGesture c c') (h : Coherent c) :
    Coherent c' where
  dragging := by rw [hsame.container, hsame.drag, h.dragging]
  userSelect := by rw [hsame.userSelect, hsame.drag, h.userSelect]
  distance := by
    rw [hsame.drag]
    exact h.distance
  handlers := by rw [hsame.touchHandlers, hsame.viewMode, h.handlers]

theorem Coherent.updateCarouselConfig (h : Coherent c) (innerWidth : Int) :
    Coherent (updateCarouselConfig innerWidth c) := by
  have honly := onlyArrows_updateCarouselConfig innerWidth c
  refine honly.sameGesture.coherent ?_
  rw [configured, limitIndex_eq]
  exact ⟨h.dragging, h.userSelect, h.distance, rfl⟩

theorem Coherent.handleDragStart (h : Coherent c) (at_ : Point) (now : Int) :
    Coherent (handleDragStart at_ now c) := by
  unfold SingleProduct.handleDragStart
  split
  · exact h
  · exact ⟨rfl, iff_of_true rfl rfl, nofun, h.handlers⟩

theorem Coherent.handleDragMove (h : Coherent c) (to_ : Point) :
    Coherent (handleDragMove to_ c) := by
  unfold SingleProduct.handleDragMove
  dsimp only
  split
  · exact h
  next hgoing =>
      rw [Bool.or_eq_true, not_or, Bool.not_eq_true, Bool.not_eq_false']
        at hgoing
      split
      · exact h
      · split
        · refine ⟨h.dragging, h.userSelect, fun hnot => ?_, h.handlers⟩
          exact absurd (hgoing.1.symm.trans hnot) Bool.noConfusion
        · exact h

/-- Ending a drag resets all of its traces. -/
theorem coherent_ended (h : Coherent c) : Coherent c.ended :=
  ⟨rfl, iff_of_false nofun nofun, fun _ => rfl, h.handlers⟩

theorem Coherent.handleDragEnd (h : Coherent c) (now : Int) :
    Coherent (handleDragEnd now c) := by
  by_cases hends : Ends c
  · have hended := handleDragEnd_ends hends now
    exact hended.sameGesture.coherent (coherent_ended h)
  · rw [handleDragEnd_of_not_ends hends]
    exact h

/-- Every handler keeps the traces together. -/
theorem Coherent.handled (h : Coherent c) (hc : Handled press c c') :
    Coherent c' := by
  cases hc with
  | config innerWidth => exact h.updateCarouselConfig innerWidth
  | arrows => exact (onlyArrows_updateArrows c).sameGesture.coherent h
  | container k hk =>
      exact ⟨hk.trans h.dragging, h.userSelect, h.distance, h.handlers⟩
  | index side => exact (navigated_stepIndex c side).sameGesture.coherent h
  | dragStart at_ now _ => exact h.handleDragStart at_ now
  | dragMove to_ => exact h.handleDragMove to_
  | dragEnd now => exact h.handleDragEnd now
  | cardClick index => exact (sameGesture_handleCardClick index c).coherent h

/-- A configuration does not end a drag. -/
theorem updateCarouselConfig_drag (innerWidth : Int) (c : Carousel) :
    (updateCarouselConfig innerWidth c).drag = c.drag := by
  have honly := onlyArrows_updateCarouselConfig innerWidth c
  refine honly.sameGesture.drag.trans ?_
  rw [configured, limitIndex_eq]
  rfl

/-- A page that loads has no drag going on. -/
theorem coherent_load {markup : Markup} {innerWidth : Int} {layout : Layout}
    {p : Page} (hload : load markup innerWidth layout = some p) :
    Coherent p.carousel ∧ p.carousel.drag.isDragging = false := by
  obtain ⟨⟨c, harrows, hcarousel⟩, -⟩ := load_eq_some hload
  have hfirst : Coherent (markup.carousel layout) :=
    ⟨rfl, iff_of_false nofun nofun, fun _ => rfl, rfl⟩
  rw [hcarousel]
  refine ⟨(harrows.sameGesture.coherent hfirst).updateCarouselConfig _, ?_⟩
  rw [updateCarouselConfig_drag, harrows.sameGesture.drag]
  rfl

/-- So they are together in every page that can be reached. -/
theorem coherent_reachable {p : Page} (hreach : p.Reachable) :
    Coherent p.carousel := by
  obtain ⟨markup, innerWidth, layout, p₀, events, hload, hrun⟩ := hreach
  refine Page.run_handled (I := Coherent) ?_ (coherent_load hload).1 hrun
  exact fun _ _ _ hc h => h.handled hc

-- ========================================================= the drag guard

/-- The test of `handleDragMove`: from `start` to `to_` the pointer was
dragged, and not upwards or downwards. -/
def Recognised (start to_ : Point) : Prop :=
  ¬ |to_.clientY - start.clientY| > |to_.clientX - start.clientX|
    ∧ |to_.clientX - start.clientX| > 3

instance (start to_ : Point) : Decidable (Recognised start to_) :=
  inferInstanceAs (Decidable (_ ∧ _))

/-- A drag from `start` is going on in tablet or mobile mode. -/
structure DraggingFrom (start : Point) (c : Carousel) : Prop where
  ends : Ends c
  startX : c.drag.startX = start.clientX
  startY : c.drag.startY = start.clientY
  attached : c.touchHandlers = true

/-- A press in the container starts a drag. -/
theorem draggingFrom_handleDragStart (hmode : c.viewMode ≠ .desktop)
    (hattached : c.touchHandlers = true) (start : Point) (now : Int) :
    DraggingFrom start (handleDragStart start now c) := by
  unfold handleDragStart
  rw [if_neg hmode]
  exact ⟨⟨rfl, hmode⟩, rfl, rfl, hattached⟩

theorem handleDragStart_selectedCard (at_ : Point) (now : Int)
    (c : Carousel) :
    (handleDragStart at_ now c).selectedCard = c.selectedCard := by
  unfold handleDragStart
  split <;> rfl

theorem handleDragStart_cards (at_ : Point) (now : Int) (c : Carousel) :
    (handleDragStart at_ now c).serviceCards = c.serviceCards := by
  unfold handleDragStart
  split <;> rfl

/-- A recognised move sets `hasDragged` and the distance, and may scroll the
container. -/
theorem handleDragMove_recognised {start to_ : Point}
    (h : DraggingFrom start c) (hrecognised : Recognised start to_) :
    ∃ container, handleDragMove to_ c
      = { c with
          drag :=
            { c.drag with
              hasDragged := true
              dragDistance := to_.clientX - start.clientX }
          carouselContainer := container } := by
  obtain ⟨hhorizontal, hfar⟩ := hrecognised
  unfold handleDragMove
  rw [if_neg (by simp [h.ends.1, h.ends.2]), h.startX, h.startY]
  dsimp only
  rw [if_neg hhorizontal, if_pos hfar]
  exact ⟨_, rfl⟩

/-- Any other move does nothing. -/
theorem handleDragMove_of_not_recognised {start to_ : Point}
    (h : DraggingFrom start c) (hnot : ¬ Recognised start to_) :
    handleDragMove to_ c = c := by
  unfold handleDragMove
  rw [if_neg (by simp [h.ends.1, h.ends.2]), h.startX, h.startY]
  dsimp only
  by_cases hvertical :
      |to_.clientY - start.clientY| > |to_.clientX - start.clientX|
  · rw [if_pos hvertical]
  · rw [if_neg hvertical, if_neg fun hfar => hnot ⟨hvertical, hfar⟩]

/-- After a move of a drag: the drag goes on, and it is recognised if it
was or if the move is. -/
structure MovedTo (start : Point) (recognised : Bool) (p q : Page) :
    Prop where
  draggingFrom : DraggingFrom start q.carousel
  hasDragged :
    q.carousel.drag.hasDragged = (p.carousel.drag.hasDragged || recognised)
  selectedCard : q.carousel.selectedCard = p.carousel.selectedCard
  cards : q.carousel.serviceCards = p.carousel.serviceCards
  pressed : q.pressed = p.pressed

theorem movedTo_onMove {start : Point} {p : Page}
    (h : DraggingFrom start p.carousel) (to_ : Point) :
    MovedTo start (decide (Recognised start to_)) p (p.onMove to_) := by
  unfold Page.onMove
  rw [if_pos h.attached]
  by_cases hrecognised : Recognised start to_
  · obtain ⟨container, hmove⟩ := handleDragMove_recognised h hrecognised
    rw [decide_eq_true hrecognised, Page.onCarousel, hmove]
    exact ⟨⟨h.ends, h.startX, h.startY, h.attached⟩,
      (Bool.or_true _).symm, rfl, rfl, rfl⟩
  · rw [decide_eq_false hrecognised, Page.onCarousel,
      handleDragMove_of_not_recognised h hrecognised]
    exact ⟨h, (Bool.or_false _).symm, rfl, rfl, rfl⟩

/-- The moves of a gesture that started a drag: `hasDragged` says whether
one of them was recognised. -/
theorem hasDragged_moves {start : Point} (moves : List Point) {p : Page}
    (h : DraggingFrom start p.carousel) :
    ∃ q, run Page.step p (moves.map .move) = some q
      ∧ MovedTo start (moves.any (decide <| Recognised start ·)) p q := by
  induction moves generalizing p with
  | nil => exact ⟨p, rfl, h, (Bool.or_false _).symm, rfl, rfl, rfl⟩
  | cons to_ moves ih =>
      have hmove := movedTo_onMove h to_
      obtain ⟨q, hrun, hq⟩ := ih hmove.draggingFrom
      refine ⟨q, run_cons_eq_some.mpr ⟨p.onMove to_, rfl, hrun⟩,
        hq.draggingFrom, ?_, hq.selectedCard.trans hmove.selectedCard,
        hq.cards.trans hmove.cards, hq.pressed.trans hmove.pressed⟩
      rw [hq.hasDragged, hmove.hasDragged, Bool.or_assoc, List.any_cons]

/-- A gesture on a card: press, moves, release. -/
def gesture (start : Point) (pressedAt : Int) (moves : List Point)
    (releasedAt : Int) : List Event :=
  .press true start pressedAt :: (moves.map .move ++ [.release releasedAt])

/-- After the gesture `hasDragged` is not set, whatever the moves were: the
release has reset it. -/
theorem hasDragged_gesture {p : Page} (hcoherent : Coherent p.carousel)
    (hmode : p.carousel.viewMode ≠ .desktop) (start : Point)
    (pressedAt : Int) (moves : List Point) (releasedAt : Int) :
    ∃ q, run Page.step p (gesture start pressedAt moves releasedAt) = some q
      ∧ q.carousel.drag.hasDragged = false
      ∧ q.carousel.selectedCard = p.carousel.selectedCard
      ∧ q.carousel.serviceCards.length = p.carousel.serviceCards.length := by
  have hattached : p.carousel.touchHandlers = true := by
    rw [hcoherent.handlers]
    simpa using hmode
  have hpress : (p.onPress true start pressedAt).carousel
      = handleDragStart start pressedAt p.carousel := by
    rw [Page.onPress_carousel, hattached]
    rfl
  have hstart :
      DraggingFrom start (p.onPress true start pressedAt).carousel := by
    rw [hpress]
    exact draggingFrom_handleDragStart hmode hattached start pressedAt
  obtain ⟨q, hmoves, hq⟩ := hasDragged_moves moves hstart
  have hpressed : 0 < q.pressed := by
    rw [hq.pressed]
    have hdown : (p.onPress true start pressedAt).pressed = p.pressed + 1 :=
      (p.handle_env (.press true start pressedAt)).1
    omega
  have hrelease : (q.onRelease releasedAt).carousel
      = handleDragEnd releasedAt q.carousel := by
    rw [Page.onRelease_carousel,
      if_pos ⟨hpressed, hq.draggingFrom.attached⟩]
  -- Whatever the moves have set `hasDragged` to, the release resets it.
  have hend := handleDragEnd_ends hq.draggingFrom.ends releasedAt
  refine ⟨q.onRelease releasedAt, ?_, ?_, ?_, ?_⟩
  · refine run_cons_eq_some.mpr ⟨_, rfl, ?_⟩
    exact run_append_eq_some.mpr ⟨q, hmoves, rfl⟩
  · rw [hrelease, hend.sameGesture.drag, Carousel.ended]
  · rw [hrelease, hend.selectedCard]
    refine hq.selectedCard.trans ?_
    rw [hpress, handleDragStart_selectedCard]
  · rw [hrelease, hend.length]
    refine (congrArg List.length hq.cards).trans ?_
    rw [hpress, handleDragStart_cards]

/-- A click that no drag forbids selects its card. -/
theorem selectedCard_handleCardClick (h : c.drag.hasDragged = false)
    (index : Nat) : (handleCardClick index c).selectedCard = index := by
  unfold handleCardClick
  rw [if_neg (by simp [h])]
  obtain ⟨l, r, hdisplay, -, -⟩ :=
    onlyArrows_updateCarouselDisplay { c with selectedCard := index }
  rw [hdisplay]

/-- The click after a gesture selects its card, whatever the gesture
was. -/
theorem click_after_gesture {p : Page} (hcoherent : Coherent p.carousel)
    (hmode : p.carousel.viewMode ≠ .desktop) (start : Point)
    (pressedAt : Int) (moves : List Point) (releasedAt : Int) {index : Nat}
    (hindex : index < p.carousel.serviceCards.length) :
    ∃ q, run Page.step p (gesture start pressedAt moves releasedAt
        ++ [.cardClick index]) = some q
      ∧ q.carousel.selectedCard = index := by
  obtain ⟨q, hrun, hdragged, -, hcards⟩ :=
    hasDragged_gesture hcoherent hmode start pressedAt moves releasedAt
  refine ⟨q.onCardClick index,
    run_append_eq_some.mpr ⟨q, hrun, rfl⟩, ?_⟩
  unfold Page.onCardClick
  rw [if_pos (hcards ▸ hindex)]
  exact selectedCard_handleCardClick hdragged index

/-- The guard works for a gesture and the click after it exactly if no move
was recognised, or the click would change nothing. The two halves of what
it is for contradict each other only where a move was recognised. -/
theorem drag_guard_iff {p : Page} (hreach : p.Reachable)
    (hmode : p.carousel.viewMode ≠ .desktop) (start : Point)
    (pressedAt : Int) (moves : List Point) (releasedAt : Int) {index : Nat}
    (hindex : index < p.carousel.serviceCards.length) :
    ∃ q, run Page.step p (gesture start pressedAt moves releasedAt
        ++ [.cardClick index]) = some q
      ∧ (((∃ to_ ∈ moves, Recognised start to_) →
            q.carousel.selectedCard = p.carousel.selectedCard)
          ∧ ((∀ to_ ∈ moves, ¬ Recognised start to_) →
            q.carousel.selectedCard = index)
        ↔ (∀ to_ ∈ moves, ¬ Recognised start to_)
          ∨ index = p.carousel.selectedCard) := by
  obtain ⟨q, hrun, hselected⟩ := click_after_gesture
    (coherent_reachable hreach) hmode start pressedAt moves releasedAt hindex
  refine ⟨q, hrun, ?_⟩
  rw [hselected]
  constructor
  · intro h
    by_cases hsome : ∃ to_ ∈ moves, Recognised start to_
    · exact .inr (h.1 hsome)
    · exact .inl fun to_ hmem hrecognised =>
        hsome ⟨to_, hmem, hrecognised⟩
  · intro h
    refine ⟨fun hsome => ?_, fun _ => rfl⟩
    rcases h with hnone | hsame
    · obtain ⟨to_, hmem, hrecognised⟩ := hsome
      exact absurd hrecognised (hnone to_ hmem)
    · exact hsame

/-- A tap that slips ten pixels down still selects its card. -/
theorem drag_guard_tap :
    ∃ p q, load fiveCards 700 ⟨0, 700, 700⟩ = some p
      ∧ run Page.step p (gesture ⟨200, 50⟩ 0 [⟨200, 60⟩] 90
          ++ [.cardClick 0]) = some q
      ∧ q.carousel.selectedCard = 0 := by
  have hnone :
      ∀ to_ ∈ [(⟨200, 60⟩ : Point)], ¬ Recognised ⟨200, 50⟩ to_ := by
    decide +kernel
  obtain ⟨q, hrun, hiff⟩ := @drag_guard_iff _
    ⟨fiveCards, 700, ⟨0, 700, 700⟩, _, [], rfl, rfl⟩ (by decide)
    ⟨200, 50⟩ 0 [⟨200, 60⟩] 90 0 (by decide)
  exact ⟨_, q, rfl, hrun, (hiff.mpr (.inl hnone)).2 hnone⟩

/-- On a tablet a drag of sixty pixels, and the click after it: the third
card was selected, the first one is. -/
theorem click_selects_after_drag :
    ∃ p q, load fiveCards 700 ⟨0, 700, 700⟩ = some p
      ∧ p.carousel.viewMode = .tablet ∧ p.carousel.selectedCard = 2
      ∧ Recognised ⟨200, 50⟩ ⟨140, 52⟩
      ∧ run Page.step p (gesture ⟨200, 50⟩ 0 [⟨140, 52⟩] 400
          ++ [.cardClick 0]) = some q
      ∧ q.carousel.selectedCard = 0 :=
  ⟨_, _, rfl, rfl, rfl, by decide +kernel, rfl, by decide +kernel⟩

-- ====================================================== the end of a drag

/-- Only a press starts a drag. -/
theorem isDragging_handled (hc : Handled false c c')
    (h : c.drag.isDragging = false) : c'.drag.isDragging = false := by
  cases hc with
  | config innerWidth =>
      rw [updateCarouselConfig_drag]
      exact h
  | arrows => exact h
  | container k _ => exact h
  | index side =>
      rw [(navigated_stepIndex c side).sameGesture.drag]
      exact h
  | dragStart at_ now hpress => cases hpress
  | dragMove to_ =>
      unfold handleDragMove
      rw [if_pos (by simp [h])]
      exact h
  | dragEnd now =>
      rw [handleDragEnd_of_not_ends fun hends => by simp [hends.1] at h]
      exact h
  | cardClick index =>
      rw [(sameGesture_handleCardClick index c).drag]
      exact h

/-- So an event that is no press starts none. -/
theorem isDragging_handle {p : Page} {e : Event} (he : e.isPress = false)
    (hdrag : (p.handle e).carousel.drag.isDragging = true) :
    p.carousel.drag.isDragging = true := by
  by_contra hnot
  rw [Bool.not_eq_true] at hnot
  have hall := p.handle_handled e
  rw [he] at hall
  have hstill := hall.keeps (I := fun c => c.drag.isDragging = false)
    (fun _ _ hc h => isDragging_handled hc h) hnot
  rw [hdrag] at hstill
  cases hstill

/-- No trace of a drag is left. -/
structure Clean (c : Carousel) : Prop where
  isDragging : c.drag.isDragging = false
  dragging : c.carouselContainer.dragging = false
  userSelect : c.userSelect ≠ .none
  dragDistance : c.drag.dragDistance = 0

theorem Coherent.clean (h : Coherent c) (hdrag : c.drag.isDragging = false) :
    Clean c where
  isDragging := hdrag
  dragging := h.dragging.trans hdrag
  userSelect hnone := by simp [h.userSelect.mp hnone] at hdrag
  dragDistance := h.distance hdrag

/-- A drag that goes on has a pointer down. -/
structure Held (p : Page) : Prop where
  coherent : Coherent p.carousel
  pressed : p.carousel.drag.isDragging = true → 0 < p.pressed

theorem Held.clean {p : Page} (h : Held p) (hpressed : p.pressed = 0) :
    Clean p.carousel := by
  refine h.coherent.clean ?_
  rw [Bool.eq_false_iff]
  intro hdrag
  have := h.pressed hdrag
  omega

/-- The last pointer is not released on a desktop page with a drag going
on. -/
def ReleaseSeen (p : Page) (e : Event) : Prop :=
  ∀ now, e = .release now → p.pressed = 1 →
    p.carousel.viewMode = .desktop → p.carousel.drag.isDragging = false

/-- A release outside desktop mode ends the drag. -/
theorem isDragging_handleDragEnd (hmode : c.viewMode ≠ .desktop)
    (now : Int) : (handleDragEnd now c).drag.isDragging = false := by
  by_cases hends : Ends c
  · rw [(handleDragEnd_ends hends now).sameGesture.drag, Carousel.ended]
  · rw [handleDragEnd_of_not_ends hends]
    rw [Ends, not_and_or, not_not] at hends
    rcases hends with hdrag | hdesktop
    · simpa using hdrag
    · exact absurd hdesktop hmode

/-- In desktop mode no listener takes the release. -/
theorem onRelease_desktop {p : Page} (h : Coherent p.carousel)
    (hmode : p.carousel.viewMode = .desktop) (now : Int) :
    (p.onRelease now).carousel = p.carousel := by
  rw [Page.onRelease_carousel, if_neg]
  rw [h.handlers, hmode]
  simp

/-- A drag still goes on after a release only if a pointer is still down,
or the release was not seen. -/
theorem Held.release {p : Page} (h : Held p) {now : Int}
    (hseen : ReleaseSeen p (.release now))
    (hdrag : (p.onRelease now).carousel.drag.isDragging = true) :
    0 < p.pressed - 1 := by
  -- In desktop mode the release goes unheard, and only `hseen` helps; in
  -- the other modes `handleDragEnd` has run.
  by_cases hmode : p.carousel.viewMode = .desktop
  · rw [onRelease_desktop h.coherent hmode] at hdrag
    have hpressed := h.pressed hdrag
    by_contra hlast
    have hnot := hseen now rfl (by omega) hmode
    rw [hdrag] at hnot
    cases hnot
  · have hattached : p.carousel.touchHandlers = true := by
      rw [h.coherent.handlers]
      simpa using hmode
    rw [Page.onRelease_carousel] at hdrag
    split at hdrag
    · rw [isDragging_handleDragEnd hmode] at hdrag
      cases hdrag
    next hnone =>
        have hpressed := h.pressed hdrag
        exact absurd ⟨hpressed, hattached⟩ hnone

/-- Every event keeps the drag held, if its release is seen. -/
theorem Held.handle {p : Page} (h : Held p) {e : Event}
    (hseen : ReleaseSeen p e) : Held (p.handle e) := by
  refine ⟨(p.handle_handled e).keeps (fun _ _ hc h => h.handled hc)
    h.coherent, fun hdrag => ?_⟩
  rw [(p.handle_env e).1]
  cases e with
  | press onCarousel at_ now => exact Nat.succ_pos _
  | release now => exact h.release hseen hdrag
  | _ => exact h.pressed (isDragging_handle rfl hdrag)

/-- Where no trace is left after a release, it was seen. -/
theorem Held.releaseSeen {p : Page} (h : Held p) {e : Event}
    (hclean : (p.handle e).pressed = 0 → Clean (p.handle e).carousel) :
    ReleaseSeen p e := by
  intro now he hlast hmode
  subst he
  rw [(p.handle_env _).1] at hclean
  have hcarousel := (hclean (by simp [Event.pressedAfter, hlast])).isDragging
  rwa [Page.handle, onRelease_desktop h.coherent hmode] at hcarousel

/-- No drag outlives its gesture in a run exactly if every release is
seen: none of a last pointer comes to a desktop page with a drag going
on. -/
theorem drag_ends_with_gesture_iff {markup : Markup} {innerWidth : Int}
    {layout : Layout} {p : Page}
    (hload : load markup innerWidth layout = some p) (events : List Event) :
    (∀ pre, pre <+: events → ∀ q, run Page.step p pre = some q →
        q.pressed = 0 → Clean q.carousel)
      ↔ Along Page.step ReleaseSeen p events := by
  obtain ⟨hcoherent, hdrag⟩ := coherent_load hload
  have hheld : Held p := ⟨hcoherent, fun h => by simp [hdrag] at h⟩
  refine forall_reached_iff_along (P := fun _ => True)
    (T := fun q => q.pressed = 0 → Clean q.carousel) Page.step_total
    (fun q => Held.clean) ?_ ?_ (fun _ _ => trivial) hheld
  · intro q e q' hq _ hstep hseen
    obtain rfl := Option.some.inj hstep
    exact hq.handle hseen
  · intro q e q' hq _ hstep hclean
    obtain rfl := Option.some.inj hstep
    exact hq.releaseSeen hclean

/-- A swipe on a tablet ends with its release. -/
theorem drag_ends_with_swipe :
    ∃ p q, load fiveCards 700 ⟨0, 700, 700⟩ = some p
      ∧ run Page.step p (gesture ⟨200, 50⟩ 0 [⟨140, 52⟩] 150) = some q
      ∧ Clean q.carousel := by
  have hload : load fiveCards 700 ⟨0, 700, 700⟩ = some _ := rfl
  refine ⟨_, _, hload, rfl, ?_⟩
  refine (drag_ends_with_gesture_iff hload
    (gesture ⟨200, 50⟩ 0 [⟨140, 52⟩] 150)).mpr ?_ _ (List.prefix_refl _) _
    rfl ?_
  · refine along_cons nofun rfl (along_cons nofun rfl
      (along_cons ?_ rfl trivial))
    intro now _ _ hmode
    exact absurd hmode (by decide +kernel)
  · decide +kernel

/-- A tablet turned during a drag: the pointer is up, no timer is set, and
the page still has every trace of the drag. -/
theorem drag_outlives_turned_tablet :
    ∃ p q, load fiveCards 700 ⟨0, 700, 700⟩ = some p
      ∧ run Page.step p
          [.press true ⟨200, 50⟩ 0, .move ⟨140, 52⟩, .resize 1000,
            .arrowsTimer, .configTimer, .release 400] = some q
      ∧ q.pressed = 0 ∧ q.configPending = false ∧ q.arrowsPending = 0
      ∧ q.carousel.drag.isDragging = true
      ∧ q.carousel.carouselContainer.dragging = true
      ∧ q.carousel.userSelect = .none
      ∧ q.carousel.drag.dragDistance = -60 :=
  ⟨_, _, rfl, rfl, by decide +kernel⟩

end SkillBuddy.SingleProduct
