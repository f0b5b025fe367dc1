import LcdCompositor.Carousel
import LcdCompositor.Proofs.Plugin.Orderly
import Mathlib.Data.Option.Basic

/-!
# How the plugins of a carousel evolve

Whatever happens to a carousel, its plugins stay in their places and each of them
only evolves. So the list of what is known of the plugins never changes, and a mask
enables the same places for ever.
-/

namespace LcdCompositor.Carousel

variable {σ : Type}

/-- Every plugin of a carousel evolves into the one at its place in another. -/
def Evolves (c d : Carousel σ) : Prop :=
  ∀ i : Nat, Option.Rel Plugin.Evolves c.plugins[i]? d.plugins[i]?

/-- The plugins of a carousel in order, by what makes them the ones they are. -/
def roll (c : Carousel σ) : List (Behaviour σ × Identity × Tempo) := c.plugins.map Plugin.kind

/-- Whether a mask enables the plugin at a place. -/
def enabledAt (c : Carousel σ) (mask : UInt64) (i : Nat) : Bool :=
  (c.plugins[i]?).any (·.enabledBy mask)

namespace Evolves

variable {c d e : Carousel σ}

theorem of_plugins_eq (h : d.plugins = c.plugins) : c.Evolves d := by
  intro i
  rw [h]
  cases c.plugins[i]? with
  | none => exact .none
  | some p => exact .some (.refl p)

theorem refl (c : Carousel σ) : c.Evolves c := of_plugins_eq rfl

theorem trans (first : c.Evolves d) (second : d.Evolves e) : c.Evolves e := by
  intro i
  have one := first i
  have two := second i
  generalize c.plugins[i]? = p at one ⊢
  generalize d.plugins[i]? = q at one two
  generalize e.plugins[i]? = r at two ⊢
  cases one with
  | none => exact two
  | some old =>
    cases two with
    | some new => exact .some (old.trans new)

/-- The plugin at a place has come from the one that was there. -/
theorem at_place {i : Nat} {p : Plugin σ} (h : c.Evolves d) (found : c.plugins[i]? = some p) :
    ∃ q, d.plugins[i]? = some q ∧ p.Evolves q := by
  have related := h i
  rw [found] at related
  generalize d.plugins[i]? = q at related ⊢
  cases related with
  | some evolved => exact ⟨_, rfl, evolved⟩

theorem source {i : Nat} {q : Plugin σ} (h : c.Evolves d) (found : d.plugins[i]? = some q) :
    ∃ p, c.plugins[i]? = some p ∧ p.Evolves q := by
  have related := h i
  rw [found] at related
  generalize c.plugins[i]? = p at related ⊢
  cases related with
  | some evolved => exact ⟨_, rfl, evolved⟩

/-- Which plugins there are, and in which order, never changes. -/
theorem roll (h : c.Evolves d) : d.roll = c.roll := by
  apply List.ext_getElem?
  intro i
  unfold Carousel.roll
  rw [List.getElem?_map, List.getElem?_map]
  cases found : c.plugins[i]? with
  | none =>
    have related := h i
    rw [found] at related
    cases other : d.plugins[i]? with
    | none => rfl
    | some q =>
      rw [other] at related
      cases related
  | some p =>
    obtain ⟨q, other, evolved⟩ := h.at_place found
    rw [other, Option.map_some, Option.map_some, evolved.kind]

/-- What is told of the plugins never changes. -/
theorem properties (h : c.Evolves d) : d.properties = c.properties := by
  have told (e : Carousel σ) : e.properties = e.roll.map fun (_, identity, tempo) =>
      ⟨identity.id, identity.name, identity.description, tempo.interval, tempo.budget⟩ := by
    rw [Carousel.roll, List.map_map]
    rfl
  rw [told, told, h.roll]

theorem length (h : c.Evolves d) : d.plugins.length = c.plugins.length := by
  have lengths := congrArg List.length h.roll
  rwa [Carousel.roll, Carousel.roll, List.length_map, List.length_map] at lengths

theorem plugins_ne_nil (h : c.Evolves d) (loaded : c.plugins ≠ []) : d.plugins ≠ [] :=
  List.ne_nil_of_length_pos (h.length ▸ List.length_pos_iff.mpr loaded)

theorem loaded_before (h : c.Evolves d) (loaded : d.plugins ≠ []) : c.plugins ≠ [] :=
  List.ne_nil_of_length_pos (h.length ▸ List.length_pos_iff.mpr loaded)

theorem enabledAt (h : c.Evolves d) (mask : UInt64) (i : Nat) :
    d.enabledAt mask i = c.enabledAt mask i := by
  unfold Carousel.enabledAt
  cases found : c.plugins[i]? with
  | none =>
    have beyond := List.getElem?_eq_none_iff.mp found
    rw [List.getElem?_eq_none (h.length ▸ beyond)]
  | some p =>
    obtain ⟨q, other, evolved⟩ := h.at_place found
    rw [other, Option.any_some, Option.any_some, evolved.enabledBy]

theorem ready (h : c.Evolves d) (ready : ∀ p ∈ c.plugins, p.Ready) : ∀ q ∈ d.plugins, q.Ready := by
  intro q member
  obtain ⟨i, found⟩ := List.mem_iff_getElem?.mp member
  obtain ⟨p, source, evolved⟩ := h.source found
  exact evolved.ready (ready p (List.mem_of_getElem? source))

/-- The plugins behave as they always did. -/
theorem behaviours {P : Behaviour σ → Prop} (h : c.Evolves d)
    (all : ∀ p ∈ c.plugins, P p.behaviour) : ∀ q ∈ d.plugins, P q.behaviour := by
  intro q member
  obtain ⟨i, found⟩ := List.mem_iff_getElem?.mp member
  obtain ⟨p, source, evolved⟩ := h.source found
  exact evolved.behaviour ▸ all p (List.mem_of_getElem? source)

end Evolves

section Modify

variable {c : Carousel σ}

/-- Changing one plugin by an evolution is an evolution of the carousel. -/
theorem evolves_modify {i : Nat} {f : Plugin σ → Plugin σ}
    (h : ∀ p, c.plugins[i]? = some p → p.Evolves (f p)) :
    c.Evolves { c with plugins := c.plugins.modify i f } := by
  intro j
  rw [List.getElem?_modify]
  cases found : c.plugins[j]? with
  | none => exact .none
  | some p =>
    refine .some ?_
    dsimp only
    by_cases same : i = j
    · subst same
      rw [if_pos rfl]
      exact h p found
    · rw [if_neg same]
      exact .refl p

theorem evolves_onActive {f : Plugin σ → Plugin σ}
    (h : ∀ p, c.active = some p → p.Evolves (f p)) : c.Evolves (c.onActive f) :=
  evolves_modify h

/-- The plugin on display after a change of it. -/
theorem active_onActive {p : Plugin σ} (f : Plugin σ → Plugin σ) (found : c.active = some p) :
    (c.onActive f).active = some (f p) := by
  unfold active at found ⊢
  rw [onActive, List.getElem?_modify, found]
  exact congrArg some (if_pos rfl)

theorem hasEnabled_iff (c : Carousel σ) (mask : UInt64) :
    c.hasEnabled mask = true ↔ ∃ i, c.enabledAt mask i = true := by
  unfold hasEnabled enabledAt
  rw [List.any_eq_true]
  constructor
  · rintro ⟨p, member, enabled⟩
    obtain ⟨i, found⟩ := List.mem_iff_getElem?.mp member
    exact ⟨i, by rw [found]; exact enabled⟩
  · rintro ⟨i, enabled⟩
    obtain ⟨p, found, enabled⟩ := (Option.any_eq_true ..).mp enabled
    exact ⟨p, List.mem_of_getElem? found, enabled⟩

theorem hasEnabled_of_enabledAt {mask : UInt64} {i : Nat} (h : c.enabledAt mask i = true) :
    c.hasEnabled mask = true := (hasEnabled_iff c mask).mpr ⟨i, h⟩

theorem plugins_ne_nil_of_hasEnabled {mask : UInt64} (h : c.hasEnabled mask = true) :
    c.plugins ≠ [] := by
  intro empty
  rw [hasEnabled, empty] at h
  cases h

theorem Evolves.hasEnabled {d : Carousel σ} (h : c.Evolves d) (mask : UInt64) :
    d.hasEnabled mask = c.hasEnabled mask := by
  rw [Bool.eq_iff_iff, hasEnabled_iff, hasEnabled_iff]
  simp only [h.enabledAt]

end Modify

end LcdCompositor.Carousel
