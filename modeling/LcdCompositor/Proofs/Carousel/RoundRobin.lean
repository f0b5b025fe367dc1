import LcdCompositor.Proofs.Carousel.Rotation
import Mathlib.Algebra.Ring.Nat
import Mathlib.Data.List.Rotate

/-!
# Taking turns

Left to itself, under one mask, a carousel shows the enabled plugins one after the
other round the list, each for as many ticks as its budget says, and at least one.

One round is written out as a list: place by place, tick by tick. What lies ahead of
the carousel is that list, rotated by the ticks that the plugin on display has had. A
tick takes the first entry and puts it at the end, whether or not the redraw succeeds.
-/

namespace LcdCompositor.Carousel

variable {σ : Type} {c d : Carousel σ} {mask : UInt64}

section Lineup

/-- The enabled places among so many, from a distance on. -/
def stretch (c : Carousel σ) (mask : UInt64) (distance count : Nat) : List Nat :=
  ((List.range' distance count).map c.placeAfter).filter (c.enabledAt mask)

/-- The enabled places round the list, from the one on display on. -/
def lineup (c : Carousel σ) (mask : UInt64) : List Nat := c.stretch mask 0 c.plugins.length

theorem stretch_add (distance first second : Nat) :
    c.stretch mask distance (first + second) =
      c.stretch mask distance first ++ c.stretch mask (distance + first) second := by
  unfold stretch
  rw [← List.range'_append_1, List.map_append, List.filter_append]

/-- Seen from another place, the places are the same at other distances. -/
theorem stretch_of_evolves {start : Nat} (h : c.Evolves d) (moved : d.current = c.placeAfter start)
    (distance count : Nat) :
    d.stretch mask distance count = c.stretch mask (start + distance) count := by
  have place : d.placeAfter = fun k => c.placeAfter (start + k) := by
    funext k
    rw [placeAfter, placeAfter, h.length, moved, placeAfter, Nat.mod_add_mod, Nat.add_assoc]
  have enabled : d.enabledAt mask = c.enabledAt mask := funext (h.enabledAt mask)
  unfold stretch
  rw [place, enabled, ← List.map_add_range', List.map_map]
  rfl

theorem placeAfter_zero (inside : c.current < c.plugins.length) : c.placeAfter 0 = c.current :=
  Nat.mod_eq_of_lt inside

/-- A whole round leads back. -/
theorem placeAfter_length (inside : c.current < c.plugins.length) :
    c.placeAfter c.plugins.length = c.current := by
  rw [placeAfter, Nat.add_mod_right, Nat.mod_eq_of_lt inside]

/-- Up to the next enabled plugin there is only the one on display. -/
theorem NextAt.stretch {distance : Nat} (next : c.NextAt mask distance)
    (inside : c.current < c.plugins.length) (enabled : c.enabledAt mask c.current = true) :
    c.stretch mask 0 distance = [c.current] := by
  obtain ⟨k, rfl⟩ := Nat.exists_eq_add_of_le next.pos
  have alone : c.stretch mask 0 1 = [c.current] := by
    simp [Carousel.stretch, placeAfter_zero inside, enabled]
  have others : c.stretch mask (0 + 1) k = [] := by
    refine List.filter_eq_nil_iff.mpr ?_
    simp only [List.mem_map, List.mem_range'_1]
    rintro _ ⟨d, ⟨low, high⟩, rfl⟩
    simp [next.first d (by omega) (by omega)]
  rw [stretch_add, alone, others, List.append_nil]

/-- Handing over to the next plugin moves the first of the lineup to its end. -/
theorem lineup_next {distance : Nat} (next : c.NextAt mask distance)
    (inside : c.current < c.plugins.length) (enabled : c.enabledAt mask c.current = true)
    (h : c.Evolves d) (moved : d.current = c.placeAfter distance) :
    ∃ others, c.lineup mask = c.current :: others ∧ d.lineup mask = others ++ [c.current] := by
  have front := next.stretch inside enabled
  obtain ⟨rest, whole⟩ := Nat.exists_eq_add_of_le next.round
  refine ⟨c.stretch mask distance rest, ?_, ?_⟩
  · rw [lineup, whole, stretch_add, front, Nat.zero_add]
    rfl
  · have again : c.stretch mask (distance + rest) distance = [c.current] := by
      rw [← whole, ← front]
      exact (stretch_of_evolves (.refl c) (placeAfter_length inside).symm 0 distance).symm
    rw [lineup, h.length, stretch_of_evolves h moved, whole, Nat.add_comm distance rest,
      Nat.add_zero, stretch_add, again]

theorem lineup_of_evolves (h : c.Evolves d) (inside : c.current < c.plugins.length)
    (same : d.current = c.current) : d.lineup mask = c.lineup mask := by
  rw [lineup, h.length, stretch_of_evolves h (same.trans (placeAfter_zero inside).symm)]
  rfl

/-- The lineup begins with the plugin on display. -/
theorem exists_lineup (inside : c.current < c.plugins.length)
    (enabled : c.enabledAt mask c.current = true) :
    ∃ others, c.lineup mask = c.current :: others := by
  obtain ⟨distance, next⟩ := exists_nextAt inside (hasEnabled_of_enabledAt enabled)
  obtain ⟨others, shape, _⟩ := lineup_next (d := { c with current := c.placeAfter distance })
    next inside enabled (.of_plugins_eq rfl) rfl
  exact ⟨others, shape⟩

/-- The places round the list are those of the list, taken from the one on display on. -/
theorem map_placeAfter :
    (List.range c.plugins.length).map c.placeAfter =
      (List.range c.plugins.length).rotate c.current := by
  apply List.ext_getElem
  · simp
  · intro i _ _
    simp [List.getElem_rotate, placeAfter, Nat.add_comm]

/-- The lineup has every enabled place once. -/
theorem lineup_perm (c : Carousel σ) (mask : UInt64) :
    (c.lineup mask).Perm ((List.range c.plugins.length).filter (c.enabledAt mask)) := by
  rw [lineup, stretch, ← List.range_eq_range', map_placeAfter]
  exact (List.rotate_perm _ _).filter _

end Lineup

section Round

/-- For how many ticks the plugin at a place is shown in its turn. -/
def stay (c : Carousel σ) (i : Nat) : Nat :=
  max (((c.properties[i]?).map (·.budget.toNat)).getD 0) 1

/-- A place with every count of ticks that is reached there. -/
def turnOf (c : Carousel σ) (i : Nat) : List (Nat × Nat) := (List.range (c.stay i)).map (i, ·)

/-- One round: the place on display and the count of ticks, tick by tick. -/
def round (c : Carousel σ) (mask : UInt64) : List (Nat × Nat) := (c.lineup mask).flatMap c.turnOf

/-- What the next ticks show, over and over, the present first. -/
def ahead (c : Carousel σ) (mask : UInt64) : List (Nat × Nat) := (c.round mask).rotate c.ticks

@[simp] theorem length_turnOf (c : Carousel σ) (i : Nat) : (c.turnOf i).length = c.stay i := by
  simp [turnOf]

theorem length_round (c : Carousel σ) (mask : UInt64) :
    (c.round mask).length =
      (((List.range c.plugins.length).filter (c.enabledAt mask)).map c.stay).sum := by
  rw [round, List.length_flatMap, ← ((lineup_perm c mask).map c.stay).sum_nat]
  simp only [length_turnOf]

theorem stay_of_active {p : Plugin σ} (found : c.active = some p) :
    c.stay c.current = max p.screen.tempo.budget.toNat 1 := by
  have active : c.plugins[c.current]? = some p := found
  simp [stay, properties, active]

theorem Evolves.turnOf (h : c.Evolves d) : d.turnOf = c.turnOf := by
  funext i
  rw [Carousel.turnOf, Carousel.turnOf, stay, stay, h.properties]

/-- A carousel in the midst of a turn. -/
structure InTurn (c : Carousel σ) (mask : UInt64) : Prop where
  sound : c.Sound
  unlocked : c.locked = false
  enabled : c.enabledAt mask c.current = true
  within : c.ticks < c.stay c.current

/-- What lies ahead begins with the present. -/
theorem InTurn.head (h : c.InTurn mask) : (c.ahead mask).head? = some (c.current, c.ticks) := by
  obtain ⟨others, shape⟩ := exists_lineup (enabledAt_lt h.enabled) h.enabled
  have within := h.within
  have inside : c.ticks < (c.turnOf c.current).length := by
    rw [length_turnOf]
    exact within
  rw [ahead, round, shape, List.flatMap_cons, List.head?_rotate, List.getElem?_append_left inside]
  · simp [turnOf, within]
  · rw [List.length_append]
    omega

/-- A turn goes on until it has had its ticks, and then the next plugin takes over. -/
theorem InTurn.dial_tick (h : c.InTurn mask) (studio : Studio) {key : String}
    (plain : key ≠ Panel.lockKey) :
    (c.ticks + 1 < c.stay c.current ∧
      (c.tick studio key mask).1.dial = (c.current, c.ticks + 1, false)) ∨
    (c.ticks + 1 = c.stay c.current ∧ ∃ distance, c.NextAt mask distance ∧
      (c.tick studio key mask).1.dial = (c.placeAfter distance, 0, false)) := by
  have inside := enabledAt_lt h.enabled
  have within := h.within
  have unlocked : c.lockedAfter key = false := by rw [lockedAfter, if_neg plain, h.unlocked]
  obtain ⟨p, found⟩ := active_of_inside inside
  have stay := stay_of_active found
  have limit := p.screen.tempo.budget.toNat_lt
  have counted : min (c.ticks + 1) tickLimit = c.ticks + 1 := by
    rw [tickLimit]
    omega
  have when := rotates_iff studio key mask h.sound found
  rw [counted, unlocked] at when
  by_cases last : c.ticks + 1 < c.stay c.current
  · have early : ¬ p.screen.tempo.budget.toNat ≤ c.ticks + 1 := by omega
    have stays : ¬ c.Rotates studio key mask := by
      rw [when, ← enabledAt_current found mask, h.enabled]
      simp [early]
    have dial := dial_of_stays studio key mask h.sound found stays
    rw [counted, if_neg early, unlocked] at dial
    exact .inl ⟨last, dial⟩
  · have rotates := when.mpr (.inr ⟨by omega, rfl⟩)
    have loaded := loaded_of_active found
    have done := decided_done studio key mask h.sound (hasEnabled_of_enabledAt h.enabled)
    obtain ⟨distance, _, next, _, _, _, dial⟩ :=
      landing_of_rotates studio key mask h.sound loaded rotates done
    exact .inr ⟨by omega, distance, next, dial⟩

theorem Evolves.stay (h : c.Evolves d) : d.stay = c.stay := by
  funext i
  rw [Carousel.stay, Carousel.stay, h.properties]

/-- A tick takes the present from what lies ahead and puts it at the end. -/
theorem InTurn.tick (h : c.InTurn mask) (studio : Studio) {key : String}
    (plain : key ≠ Panel.lockKey) :
    (c.tick studio key mask).1.InTurn mask ∧
      (c.tick studio key mask).1.ahead mask = (c.ahead mask).rotate 1 := by
  have inside := enabledAt_lt h.enabled
  have sound := h.sound.tick studio key mask
  have shown := enabledAt_tick studio key mask h.sound (hasEnabled_of_enabledAt h.enabled)
  have evolved := evolves_tick studio key mask h.sound
  have turn := h.dial_tick studio plain
  generalize (c.tick studio key mask).1 = d at sound shown evolved turn ⊢
  rcases turn with ⟨more, dial⟩ | ⟨last, distance, next, dial⟩
  · have current : d.current = c.current := congrArg Prod.fst dial
    have ticks : d.ticks = c.ticks + 1 := congrArg (·.2.1) dial
    refine ⟨⟨sound, congrArg (·.2.2) dial, shown, ?_⟩, ?_⟩
    · rwa [ticks, current, evolved.stay]
    · rw [ahead, round, lineup_of_evolves evolved inside current, evolved.turnOf, ticks,
        ← List.rotate_rotate]
      rfl
  · have current : d.current = c.placeAfter distance := congrArg Prod.fst dial
    have ticks : d.ticks = 0 := congrArg (·.2.1) dial
    refine ⟨⟨sound, congrArg (·.2.2) dial, shown, ?_⟩, ?_⟩
    · rw [ticks]
      exact Nat.le_max_right ..
    · -- The turn that is over moves from the front of the round to its end.
      obtain ⟨others, before, after⟩ := lineup_next next inside h.enabled evolved current
      have front : c.round mask = c.turnOf c.current ++ others.flatMap c.turnOf := by
        rw [round, before, List.flatMap_cons]
      have back : d.round mask = others.flatMap c.turnOf ++ c.turnOf c.current := by
        rw [round, after, evolved.turnOf, List.flatMap_append, List.flatMap_singleton]
      rw [ahead, ticks, List.rotate_zero, ahead, List.rotate_rotate, last, ← length_turnOf, front,
        back, List.rotate_append_length_eq]

/-- Any number of ticks only turns what lies ahead. -/
theorem InTurn.run {moves : List Move} (h : c.InTurn mask)
    (plain : ∀ m ∈ moves, m.Plain (· = mask)) :
    (c.run moves).InTurn mask ∧
      (c.run moves).ahead mask = (c.ahead mask).rotate moves.length := by
  induction moves generalizing c with
  | nil => exact ⟨h, (List.rotate_zero _).symm⟩
  | cons m rest ih =>
    obtain ⟨first, others⟩ := List.forall_mem_cons.mp plain
    cases m with
    | forceNext => exact first.elim
    | tick studio key other =>
      obtain ⟨quiet, rfl⟩ := first
      obtain ⟨turn, ahead⟩ := h.tick studio quiet
      obtain ⟨last, lies⟩ := ih turn others
      refine ⟨last, lies.trans ?_⟩
      rw [ahead, List.rotate_rotate, List.length_cons, Nat.add_comm]

/-- A rotation begins a turn. -/
theorem inTurn_of_rotates (h : c.Sound) (studio : Studio) (key : String)
    (rotates : c.Rotates studio key mask) (enabled : c.hasEnabled mask = true) :
    (c.tick studio key mask).1.InTurn mask ∧ (c.tick studio key mask).1.ticks = 0 := by
  have shown := enabledAt_tick studio key mask h enabled
  have loaded := plugins_ne_nil_of_hasEnabled enabled
  have done := decided_done studio key mask h enabled
  obtain ⟨_, _, _, _, _, _, dial⟩ := landing_of_rotates studio key mask h loaded rotates done
  have ticks : (c.tick studio key mask).1.ticks = 0 := congrArg (·.2.1) dial
  refine ⟨⟨h.tick studio key mask, congrArg (·.2.2) dial, shown, ?_⟩, ticks⟩
  rw [ticks]
  exact Nat.le_max_right ..

/-- What is on display after some ticks stands at their number in the round, counted
over and over. -/
theorem InTurn.shown {moves : List Move} (h : c.InTurn mask) (fresh : c.ticks = 0)
    (plain : ∀ m ∈ moves, m.Plain (· = mask)) :
    (c.round mask)[moves.length % (c.round mask).length]? =
      some ((c.run moves).current, (c.run moves).ticks) := by
  have start := h.head
  obtain ⟨last, lies⟩ := h.run plain
  have whole : c.ahead mask = c.round mask := by rw [ahead, fresh, List.rotate_zero]
  rw [whole] at lies start
  have pos := List.length_pos_of_mem (List.mem_of_head? start)
  rw [← last.head, lies, ← List.rotate_mod, List.head?_rotate (Nat.mod_lt _ pos)]

/-- Every enabled plugin comes in at some point of the round. -/
theorem mem_round {i : Nat} (enabled : c.enabledAt mask i = true) : (i, 0) ∈ c.round mask := by
  refine List.mem_flatMap.mpr ⟨i, ?_, List.mem_map.mpr ⟨0, ?_, rfl⟩⟩
  · refine (lineup_perm c mask).mem_iff.mpr (List.mem_filter.mpr ⟨?_, enabled⟩)
    exact List.mem_range.mpr (enabledAt_lt enabled)
  · exact List.mem_range.mpr (Nat.le_max_right ..)

end Round

/-- From a rotation on, ticks under one mask and without the lock key show the enabled
plugins round the list, each for its budget and at least for one tick, whatever becomes
of the redraws. No enabled plugin is missing for the length of a round. -/
theorem round_robin {plugins : List (Plugin σ)} (orderly : ∀ p ∈ plugins, p.Orderly)
    (reachable : Reachable plugins c) (studio : Studio) (key : String)
    (enabled : c.hasEnabled mask = true) (rotates : c.Rotates studio key mask) :
    let arrived := (c.tick studio key mask).1
    let round := arrived.round mask
    (∀ moves : List Move, (∀ m ∈ moves, m.Plain (· = mask)) →
      round[moves.length % round.length]? =
        some ((arrived.run moves).current, (arrived.run moves).ticks)) ∧
    round.length = (((List.range arrived.plugins.length).filter
      (arrived.enabledAt mask)).map arrived.stay).sum ∧
    (∀ i, arrived.enabledAt mask i = true →
      ∀ moves : List Move, (∀ m ∈ moves, m.Plain (· = mask)) →
      ∀ n, n + round.length ≤ moves.length + 1 →
        ∃ k, n ≤ k ∧ k < n + round.length ∧ (arrived.run (moves.take k)).current = i) := by
  intro arrived round
  obtain ⟨turn, fresh⟩ := inTurn_of_rotates (reachable.sound orderly) studio key rotates enabled
  refine ⟨fun moves plain => turn.shown fresh plain, length_round arrived mask, ?_⟩
  intro i present moves plain n long
  have member : (i, 0) ∈ round.rotate n := List.mem_rotate.mpr (mem_round present)
  obtain ⟨k, inside, found⟩ := List.mem_iff_getElem.mp member
  rw [List.length_rotate] at inside
  rw [List.getElem_rotate] at found
  have first : ∀ m ∈ moves.take (n + k), m.Plain (· = mask) :=
    fun m member => plain m (List.mem_of_mem_take member)
  have shown := turn.shown fresh first
  rw [List.length_take, Nat.min_eq_left (by omega), Nat.add_comm n k] at shown
  have pos : 0 < round.length := by omega
  have entry := (List.getElem?_eq_getElem (Nat.mod_lt (k + n) pos)).symm.trans shown
  refine ⟨k + n, by omega, by omega, ?_⟩
  exact congrArg Prod.fst ((Option.some.inj entry).symm.trans found)

/-- The second plugin has come in for three ticks, one of which fails to redraw; then the
third has its two, and the first its one. -/
theorem round_robin_trio :
    (∀ p ∈ trio, p.Orderly) ∧ Reachable trio (trioAfter []) ∧
      (trioAfter []).hasEnabled 7 = true ∧ (trioAfter []).Rotates default "" 7 ∧
      (((trioAfter []).tick default "" 7).1.round 7 =
        [(1, 0), (1, 1), (1, 2), (2, 0), (2, 1), (0, 0)]) ∧
      ∀ i, ((trioAfter []).tick default "" 7).1.enabledAt 7 i = true →
        ∃ k < 6, (((trioAfter []).tick default "" 7).1.run
          ((List.replicate 5 (.tick default "" 7)).take k)).current = i := by
  have reachable := reachable_trioAfter []
  have enabled : (trioAfter []).hasEnabled 7 = true := by decide +kernel
  have rotates : (trioAfter []).Rotates default "" 7 := by
    obtain ⟨p, found, _⟩ := (reachable.sound trio_orderly).active (loaded_trioAfter [])
    have budget : (trioAfter []).active.all (·.screen.tempo.budget == 0) = true := by
      decide +kernel
    rw [found] at budget
    have none : p.screen.tempo.budget = 0 := eq_of_beq budget
    refine (rotates_iff _ _ _ (reachable.sound trio_orderly) found).mpr (.inr ⟨?_, ?_⟩)
    · rw [none]
      exact Nat.zero_le _
    · decide +kernel
  have round : ((trioAfter []).tick default "" 7).1.round 7 =
      [(1, 0), (1, 1), (1, 2), (2, 0), (2, 1), (0, 0)] := by decide +kernel
  obtain ⟨_, _, served⟩ := round_robin trio_orderly reachable default "" enabled rotates
  refine ⟨trio_orderly, reachable, enabled, rotates, round, fun i present => ?_⟩
  have plain : ∀ m ∈ List.replicate 5 (Move.tick default "" 7), m.Plain (· = 7) := by
    intro m member
    rw [(List.mem_replicate.mp member).2]
    exact ⟨by decide, rfl⟩
  have window := served i present _ plain 0
  rw [round] at window
  obtain ⟨k, _, short, shown⟩ := window (by decide)
  exact ⟨k, by simpa using short, shown⟩

end LcdCompositor.Carousel
