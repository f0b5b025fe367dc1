import LcdCompositor.Proofs.Settings.Layering

/-!
# Settings that are in force

A layer is valid if it breaks no rule, and a run accepts its layers exactly if what they
come to is valid. In particular the run has at least one tick: a number of ticks that is
set is not zero, and neither is the default. A tick of the lock is one of the run,
whichever layers the two have come from.
-/

namespace LcdCompositor

/-- Lower case is that of the standard library, which knows the letters of ASCII alone. -/
theorem asciiLower_eq (s : String) : asciiLower s = s.toLower := by
  have lower (c : Char) :
      (if 'A' ≤ c && c ≤ 'Z' then Char.ofNat (c.toNat + 32) else c) = c.toLower := by
    have capital : ('A' ≤ c && c ≤ 'Z') = true ↔ c.val ≥ 'A'.val ∧ c.val ≤ 'Z'.val := by
      rw [Bool.and_eq_true, decide_eq_true_eq, decide_eq_true_eq]
      rfl
    delta Char.toLower
    split
    next isCapital =>
      have bounds := capital.mp isCapital
      have below : c.val.toNat ≤ 90 := bounds.2
      have valid : (c.toNat + 32).isValidChar := .inl (by change c.val.toNat + 32 < _; omega)
      rw [dif_pos bounds, Char.ofNat, dif_pos valid]
      apply Char.ext
      apply UInt32.toNat_inj.mp
      have distance : ('a'.val - 'A'.val).toNat = 32 := rfl
      rw [UInt32.toNat_add, distance]
      change c.val.toNat + 32 = (c.val.toNat + 32) % 4294967296
      omega
    next other => rw [dif_neg (mt capital.mpr other)]
  exact congrArg (String.map · s) (funext lower)

section Rules

/-- A rule is either broken or keeps silent. -/
theorem rule_eq_nil_iff {broken : Prop} [Decidable broken] (rule : Invalidity) :
    (if broken then [rule] else []) = [] ↔ ¬ broken := by
  split <;> simp [*]

theorem LcdLayer.invalidities_eq_nil_iff (l : LcdLayer) :
    l.invalidities = [] ↔
      (∀ name ∈ l.productName, ∃ c ∈ name.toList, Text.isBlank c = false) ∧
      l.ticks ≠ some 0 ∧ ∀ tick ∈ l.lockTick, 1 ≤ tick ∧ tick ≤ l.effectiveTicks := by
  rw [invalidities, List.append_eq_nil_iff, List.append_eq_nil_iff, rule_eq_nil_iff,
    rule_eq_nil_iff, rule_eq_nil_iff, and_assoc]
  refine and_congr ?name (and_congr Iff.rfl ?tick)
  case name => cases l.productName <;> simp [Text.isAllBlank]
  case tick => cases l.lockTick <;> simp [Nat.one_le_iff_ne_zero]

theorem SensorLayer.invalidities_eq_nil_iff (l : SensorLayer) :
    l.invalidities = [] ↔
      (∀ percent ∈ l.cpuPercent, percent ≤ 100) ∧ ∀ percent ∈ l.memoryPercent, percent ≤ 100 := by
  rw [invalidities, List.append_eq_nil_iff, rule_eq_nil_iff, rule_eq_nil_iff]
  refine and_congr ?_ ?_
  · cases l.cpuPercent <;> simp
  · cases l.memoryPercent <;> simp

end Rules

namespace Layer

/-- The rules that settings in force have to keep. -/
structure Valid (l : Layer) : Prop where
  logLevel : ∀ level ∈ l.logLevel,
    level.toLower ∈ ["off", "error", "warn", "info", "debug", "trace"]
  productName : ∀ name ∈ l.panel (·.productName), ∃ c ∈ name.toList, Text.isBlank c = false
  ticks : l.panel (·.ticks) ≠ some 0
  lockTick : ∀ tick ∈ l.panel (·.lockTick), 1 ≤ tick ∧ tick ≤ l.settings.ticks
  cpuPercent : ∀ percent ∈ l.reading (·.cpuPercent), percent ≤ 100
  memoryPercent : ∀ percent ∈ l.reading (·.memoryPercent), percent ≤ 100

variable {reader : LayerReader} {l layer : Layer} {o : Options} {search : Bool} {e : Environment}

/-- No rule is found broken exactly if all are kept. -/
theorem invalidities_eq_nil_iff : l.invalidities = [] ↔ l.Valid := by
  have level : (∀ level ∈ l.logLevel, level.toLower ∈ filterNames) ↔
      ¬ l.logLevel.any fun level => !filterNames.contains (asciiLower level) := by
    cases l.logLevel <;> simp [asciiLower_eq]
  have panel : (l.lcd.map LcdLayer.invalidities).getD [] = [] ↔
      (l.lcd.getD LcdLayer.empty).invalidities = [] := by
    cases l.lcd <;> rfl
  have readings : (l.sensors.map SensorLayer.invalidities).getD [] = [] ↔
      (l.sensors.getD SensorLayer.empty).invalidities = [] := by
    cases l.sensors <;> rfl
  rw [invalidities, List.append_eq_nil_iff, List.append_eq_nil_iff, rule_eq_nil_iff, ← level,
    panel, readings, LcdLayer.invalidities_eq_nil_iff, SensorLayer.invalidities_eq_nil_iff]
  -- A part that is missing sets nothing.
  obtain ⟨logLevel, lcd, sensors⟩ := l
  constructor
  · rintro ⟨⟨level, name, ticks, tick⟩, cpu, memory⟩
    cases lcd <;> cases sensors <;> exact ⟨level, name, ticks, tick, cpu, memory⟩
  · rintro ⟨level, name, ticks, tick, cpu, memory⟩
    cases lcd <;> cases sensors <;> exact ⟨⟨level, name, ticks, tick⟩, cpu, memory⟩

/-- A run accepts its layers exactly if what they come to is valid. -/
theorem load_eq_ok_iff {file : Layer} (supplies : e.Supplies reader o search file) :
    Layer.load reader o search e = .ok layer ↔
      (o.layered file).Valid ∧ layer = o.layered file := by
  rw [load_of_supplies supplies, validated_eq_ok_iff, invalidities_eq_nil_iff, eq_comm]

/-- What is accepted breaks no rule. -/
theorem invalidities_of_load (loaded : Layer.load reader o search e = .ok layer) :
    layer.invalidities = [] := by
  obtain ⟨file, -, sound, -⟩ := supplies_of_load loaded
  exact sound

/-- A run has at least one tick. -/
theorem ticks_pos (valid : layer.invalidities = []) : 0 < layer.settings.ticks := by
  have nonzero := (invalidities_eq_nil_iff.mp valid).ticks
  rw [settings_eq, Settings.decidedBy]
  dsimp only
  cases set : layer.panel (·.ticks) with
  | none => exact Nat.zero_lt_succ 59
  | some ticks =>
    rw [set] at nonzero
    exact Nat.pos_of_ne_zero fun zero => nonzero (congrArg some zero)

end Layer

end LcdCompositor
