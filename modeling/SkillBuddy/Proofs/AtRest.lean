/-
A page that is left alone comes to rest.

# What is due

The events that are due by themselves are the debounced configuration,
the timers of `updateArrows` and a scroll event; the browser may dispatch
them in any order. None of their handlers makes another one due, so there
are as many of them as were due in the beginning: each takes one away
(`handle_due`). As long as there is one it can come (`exists_run_due`).

# In which order

The order matters little. The configuration is the only one of them that
writes more than the arrows' `disabled` and the scroll event's own mark.
The two controllers both write the arrows' `disabled`, and nothing else
they write depends on it (`Blind`): a handler that is blind does the same
to two pages that differ in it alone. So the other events may come before
the configuration or behind it, and but for `disabled` the page comes to
rest as if the configuration had run and nothing else (`atRest`).

That a handler is blind is checked for each of the parts of which the
configuration is composed, and blind handlers one after the other are
blind (`Blind.comp`).

# The arrows

Of the arrows' `disabled` it is known that the last event has set it: they
are as the controller of that event would set them (`SetBy`), because
both controllers do nothing the second time (`updateArrowStates_idem`,
`updateArrows_idem`).

`comes_to_rest` puts the three together, for every page and every order
of events.
-/
import SkillBuddy.Proofs.CarouselSteps
import SkillBuddy.Lib.Run

namespace SkillBuddy.SingleProduct

open Lib

-- ======================================================= what is settled

/-- Without the arrows' `disabled`, and without a scroll event due. -/
def Carousel.settled (c : Carousel) : Carousel :=
  { c with
    leftBtn := c.leftBtn.map fun button => { button with disabled := false }
    rightBtn := c.rightBtn.map fun button =>
      { button with disabled := false }
    carouselContainer :=
      { c.carouselContainer with scrollPending := false } }

/-- A handler that does not look at what is not settled. -/
def Blind (f : Carousel → Carousel) : Prop :=
  ∀ c, (f c.settled).settled = (f c).settled

/-- Blind handlers one after the other. -/
theorem Blind.comp {f g : Carousel → Carousel} (hf : Blind f)
    (hg : Blind g) : Blind (g ∘ f) := by
  intro c
  calc (g (f c.settled)).settled
      = (g (f c.settled).settled).settled := (hg _).symm
    _ = (g (f c).settled).settled := by rw [hf c]
    _ = (g (f c)).settled := hg _

theorem blind_updateArrowStates : Blind updateArrowStates := by
  intro c
  rcases c with ⟨_, _ | _, _ | _, _, _, _, _, _, _, _, _⟩ <;> rfl

theorem blind_showArrows : Blind showArrows := by
  intro c
  rcases c with ⟨_, _ | _, _ | _, _, _, _, _, _, _, _, _⟩ <;> rfl

theorem blind_hideArrows : Blind hideArrows := by
  intro c
  rcases c with ⟨_, _ | _, _ | _, _, _, _, _, _, _, _, _⟩ <;> rfl

/-- The configuration is blind: what it writes depends on the view mode
only. -/
theorem blind_configure : Blind configure := by
  intro c
  obtain ⟨cards, left, right, container, userSelect, handlers, index,
    selected, perView, mode, drag⟩ := c
  cases mode with
  | mobile =>
      exact blind_hideArrows ⟨cards, left, right, container, userSelect,
        true, index, selected, 1, .mobile, drag⟩
  | tablet =>
      exact blind_showArrows ⟨cards, left, right, container, userSelect,
        true, index, selected, 2, .tablet, drag⟩
  | desktop =>
      exact blind_showArrows ⟨cards, left, right, container, userSelect,
        false, index, selected, 3, .desktop, drag⟩

/-- So is the limit of the index, which looks at no arrow. -/
theorem blind_limitIndex : Blind limitIndex := by
  intro c
  rw [limitIndex_eq, limitIndex_eq]
  rcases c with ⟨_, _ | _, _ | _, _, _, _, _, _, _, _, _⟩ <;> rfl

theorem blind_updateCarouselDisplay : Blind updateCarouselDisplay := fun c =>
  blind_updateArrowStates
    { c with
      serviceCards := (c.serviceCards.mapIdx (displayCard c)).modify
        c.selectedCard highlightCard }

/-- So is all of `updateCarouselConfig`, which is made of these. -/
theorem blind_updateCarouselConfig (innerWidth : Int) :
    Blind (updateCarouselConfig innerWidth) := by
  have hmode : Blind fun c =>
      { c with viewMode := getViewMode innerWidth } := by
    intro c
    rcases c with ⟨_, _ | _, _ | _, _, _, _, _, _, _, _, _⟩ <;> rfl
  exact ((hmode.comp blind_configure).comp blind_limitIndex).comp
    blind_updateCarouselDisplay

/-- The configuration does not scroll. -/
theorem carouselContainer_updateCarouselConfig (innerWidth : Int)
    (c : Carousel) :
    (updateCarouselConfig innerWidth c).carouselContainer
      = c.carouselContainer := by
  obtain ⟨l, r, honly, -, -⟩ := onlyArrows_updateCarouselConfig innerWidth c
  rw [honly]
  show (configured innerWidth c).carouselContainer = _
  rw [configured, limitIndex_eq]
  cases getViewMode innerWidth <;> rfl

/-- The other controller writes nothing else. -/
theorem settled_updateArrows (c : Carousel) :
    (updateArrows c).settled = c.settled := by
  rcases c with ⟨_, _ | _, _ | _, _, _, _, _, _, _, _, _⟩ <;> rfl

-- ============================================================= what is due

namespace Page

/-- The events that come by themselves. -/
def Due (p : Page) : Event → Prop
  | .configTimer => p.configPending = true
  | .arrowsTimer => 0 < p.arrowsPending
  | .scroll => p.carousel.carouselContainer.scrollPending = true
  | _ => False

/-- How many there are. -/
def due (p : Page) : Nat :=
  p.configPending.toNat + p.arrowsPending
    + p.carousel.carouselContainer.scrollPending.toNat

/-- The page at rest, but for the arrows' `disabled`. -/
def atRest (p : Page) : Page :=
  { p with
    carousel := Carousel.settled
      (if p.configPending then
        updateCarouselConfig p.innerWidth p.carousel
      else p.carousel)
    configPending := false
    arrowsPending := 0 }

/-- As it is, but for the arrows' `disabled`. -/
def settled (p : Page) : Page := { p with carousel := p.carousel.settled }

/-- Where the number is not 0, one of the events is due. -/
theorem exists_due {p : Page} (h : p.due ≠ 0) : ∃ e, p.Due e := by
  by_cases hconfig : p.configPending = true
  · exact ⟨.configTimer, hconfig⟩
  by_cases harrows : 0 < p.arrowsPending
  · exact ⟨.arrowsTimer, harrows⟩
  refine ⟨.scroll, ?_⟩
  show p.carousel.carouselContainer.scrollPending = true
  by_contra hscroll
  rw [Bool.not_eq_true] at hconfig hscroll
  apply h
  unfold due
  rw [hconfig, hscroll]
  show 0 + p.arrowsPending + 0 = 0
  omega

/-- Where nothing is due, a page is at rest. -/
theorem atRest_of_due_eq_zero {p : Page} (h : p.due = 0) :
    p.atRest = p.settled := by
  unfold due at h
  have hconfig : p.configPending = false := by
    cases hconfig : p.configPending with
    | false => rfl
    | true =>
        rw [hconfig] at h
        simp at h
  have harrows : p.arrowsPending = 0 := by omega
  obtain ⟨carousel, width, config, arrows, scroll, pressed⟩ := p
  obtain rfl : config = false := hconfig
  obtain rfl : arrows = 0 := harrows
  rfl

/-- The scroll event has come. -/
def scrolled (c : Carousel) : Carousel :=
  { c with
    carouselContainer :=
      { c.carouselContainer with scrollPending := false } }

/-- A handler that leaves what is settled alone does not change what a page
comes to. -/
theorem atRest_onCarousel {p : Page} {f : Carousel → Carousel}
    (h : (f p.carousel).settled = p.carousel.settled) :
    (p.onCarousel f).atRest = p.atRest := by
  have hblind := blind_updateCarouselConfig p.innerWidth
  have hconfig : (updateCarouselConfig p.innerWidth (f p.carousel)).settled
      = (updateCarouselConfig p.innerWidth p.carousel).settled := by
    rw [← hblind (f p.carousel), h, hblind p.carousel]
  unfold atRest onCarousel
  dsimp only
  split
  · rw [hconfig]
  · rw [h]

/-- What the events do that come by themselves. -/
theorem handle_cases {p : Page} {e : Event} (h : p.Due e) :
    (e = .configTimer ∧ p.configPending = true
        ∧ p.handle e = { p with configPending := false }.onCarousel
            (updateCarouselConfig p.innerWidth))
      ∨ (e = .arrowsTimer ∧ 0 < p.arrowsPending
        ∧ p.handle e
          = { p with arrowsPending := p.arrowsPending - 1 }.onCarousel
              updateArrows)
      ∨ e = .scroll ∧ p.carousel.carouselContainer.scrollPending = true
        ∧ p.handle e = if p.scrollBased then
            (p.onCarousel scrolled).onCarousel updateArrows
          else p.onCarousel scrolled := by
  cases e with
  | configTimer => exact Or.inl ⟨rfl, h, if_pos h⟩
  | arrowsTimer => exact Or.inr (Or.inl ⟨rfl, h, if_pos h⟩)
  | scroll => exact Or.inr (Or.inr ⟨rfl, h, if_pos h⟩)
  | resize => exact h.elim
  | relayout => exact h.elim
  | arrowClick => exact h.elim
  | keydown => exact h.elim
  | press => exact h.elim
  | move => exact h.elim
  | release => exact h.elim
  | cardClick => exact h.elim

/-- An event that is due is done with, and the page comes to the same. The
configuration does now what it would have done; the others write only
what is not settled. -/
theorem handle_due {p : Page} {e : Event} (h : p.Due e) :
    (p.handle e).due + 1 = p.due ∧ (p.handle e).atRest = p.atRest := by
  rcases handle_cases h with ⟨-, hpending, hhandle⟩
    | ⟨-, hpending, hhandle⟩ | ⟨-, hpending, hhandle⟩
  · rw [hhandle]
    unfold due atRest onCarousel
    dsimp only
    rw [carouselContainer_updateCarouselConfig, hpending, if_pos rfl,
      if_neg Bool.false_ne_true]
    refine ⟨?_, rfl⟩
    show 0 + _ + _ + 1 = 1 + _ + _
    omega
  · rw [hhandle, atRest_onCarousel (settled_updateArrows _)]
    refine ⟨?_, rfl⟩
    show p.configPending.toNat + (p.arrowsPending - 1)
        + p.carousel.carouselContainer.scrollPending.toNat + 1
      = p.configPending.toNat + p.arrowsPending
        + p.carousel.carouselContainer.scrollPending.toNat
    omega
  · have hdue : (p.onCarousel scrolled).due + 1 = p.due := by
      unfold due
      rw [hpending]
      rfl
    have hrest : (p.onCarousel scrolled).atRest = p.atRest :=
      atRest_onCarousel rfl
    rw [hhandle]
    split
    · rw [atRest_onCarousel (settled_updateArrows _)]
      exact ⟨hdue, hrest⟩
    · exact ⟨hdue, hrest⟩

/-- The arrows are as the controller of an event would set them. -/
def SetBy (c : Carousel) (e : Event) : Prop :=
  (if e = .configTimer then updateArrowStates c else updateArrows c) = c

/-- An event that is due leaves the arrows as its controller would set
them. -/
theorem setBy_handle {p : Page} {e : Event} (h : p.Due e)
    (hscroll : (p.handle e).scrollBased = true) :
    SetBy (p.handle e).carousel e := by
  unfold SetBy
  rcases handle_cases h with ⟨rfl, -, hhandle⟩ | ⟨rfl, -, hhandle⟩
    | ⟨rfl, -, hhandle⟩
  · rw [if_pos rfl, hhandle]
    exact updateArrowStates_idem _
  · rw [if_neg (by decide), hhandle]
    exact updateArrows_idem _
  · have hp : p.scrollBased = true := by
      rw [hhandle] at hscroll
      split at hscroll
      · exact hscroll
      · exact hscroll
    rw [if_neg (by decide), hhandle, if_pos hp]
    exact updateArrows_idem _

/-- Events that are due, one after the other. By induction on the events;
only the last one counts for the arrows. -/
theorem run_due {events : List Event} : ∀ {p q : Page},
    Along step Due p events → run step p events = some q →
      events.length + q.due = p.due ∧ q.atRest = p.atRest
        ∧ (q.scrollBased = true →
          ∀ e ∈ events.getLast?, SetBy q.carousel e) := by
  induction events with
  | nil =>
      intro p q _ hrun
      obtain rfl := Option.some.inj hrun
      exact ⟨Nat.zero_add _, rfl, fun _ e he => nomatch he⟩
  | cons e events ih =>
      intro p q halong hrun
      rw [along_cons_iff rfl] at halong
      obtain ⟨hdue, hrest⟩ := handle_due halong.1
      obtain ⟨hcount, hsame, hset⟩ := ih halong.2 hrun
      refine ⟨?_, hsame.trans hrest, ?_⟩
      · rw [List.length_cons]
        omega
      · intro hscroll e' he'
        cases events with
        | nil =>
            obtain rfl := Option.some.inj hrun
            obtain rfl := Option.some.inj he'
            exact setBy_handle halong.1 hscroll
        | cons e'' events =>
            rw [List.getLast?_cons_cons] at he'
            exact hset hscroll e' he'

/-- As long as something is due it can come. -/
theorem exists_run_due (n : Nat) : ∀ p : Page, p.due = n →
    ∃ events q, Along step Due p events ∧ run step p events = some q
      ∧ q.due = 0 := by
  induction n with
  | zero => exact fun p h => ⟨[], p, trivial, rfl, h⟩
  | succ n ih =>
      intro p h
      obtain ⟨e, he⟩ := exists_due (p := p) (by omega)
      obtain ⟨hcount, -⟩ := handle_due he
      obtain ⟨events, q, halong, hrun, hq⟩ := ih (p.handle e) (by omega)
      exact ⟨e :: events, q, along_cons he rfl halong, hrun, hq⟩

/-- A page that is left alone comes to rest after as many events as are
due, in whichever order they come, and but for the arrows' `disabled` in
one way only; where both controllers run, this is as the one that came
last would set it. -/
theorem comes_to_rest (p : Page) :
    (∃ events q, Along step Due p events ∧ run step p events = some q
      ∧ q.due = 0)
    ∧ ∀ events q, Along step Due p events → run step p events = some q →
      events.length + q.due = p.due
        ∧ (q.due = 0 → q.settled = p.atRest)
        ∧ (q.scrollBased = true →
          ∀ e ∈ events.getLast?, SetBy q.carousel e) := by
  refine ⟨exists_run_due p.due p rfl, ?_⟩
  intro events q halong hrun
  obtain ⟨hcount, hrest, hset⟩ := run_due halong hrun
  refine ⟨hcount, fun hq => ?_, hset⟩
  rw [← hrest, atRest_of_due_eq_zero hq]

end Page

end SkillBuddy.SingleProduct
