import LcdCompositor.Proofs.Carousel.ReadOnly
import LcdCompositor.Proofs.Plugin.SetUp

/-!
# Which plugins are loaded

Plugins are set up in order, each in the studio that the one before it has left. Those
that are kept form the carousel, in the order in which they were given. One that is
discarded matters to the others by the fonts it has left in the cache and by nothing
else.
-/

namespace LcdCompositor.Carousel

variable {σ : Type} {setting : Setting} {studio other : Studio} {p : Plugin σ}
  {plugins before after : List (Plugin σ)}

/-- The studio that the plugin at a place finds when it is set up. -/
def found (setting : Setting) (studio : Studio) (plugins : List (Plugin σ)) (i : Nat) : Studio :=
  (load setting studio (plugins.take i)).2

section Load

/-- Loading one plugin leaves what the plugin leaves, and one more record. -/
theorem left_alike (setting : Setting) (studio : Studio) (p : Plugin σ) :
    (load setting studio [p]).2.Alike (p.leaves setting studio) := by
  cases kept : p.kept setting studio with
  | some q =>
    rw [load, Plugin.setUp_of_kept kept]
    exact .report ..
  | none =>
    obtain ⟨r, fault, failed⟩ := Plugin.setUp_of_discarded kept
    rw [load, failed]
    exact .report ..

/-- The first plugin is kept or not, and the others are loaded in the studio it leaves. -/
theorem load_cons (setting : Setting) (studio : Studio) (p : Plugin σ) (rest : List (Plugin σ)) :
    load setting studio (p :: rest) =
      ((p.kept setting studio).toList ++ (load setting (load setting studio [p]).2 rest).1,
        (load setting (load setting studio [p]).2 rest).2) := by
  cases kept : p.kept setting studio with
  | some q =>
    rw [load, load, Plugin.setUp_of_kept kept]
    rfl
  | none =>
    obtain ⟨r, fault, failed⟩ := Plugin.setUp_of_discarded kept
    rw [load, load, failed]
    rfl

theorem load_append (setting : Setting) (studio : Studio) (before after : List (Plugin σ)) :
    load setting studio (before ++ after) =
      ((load setting studio before).1 ++ (load setting (load setting studio before).2 after).1,
        (load setting (load setting studio before).2 after).2) := by
  induction before generalizing studio with
  | nil => rfl
  | cons p rest ih =>
    rw [List.cons_append, load_cons, load_cons _ _ p rest, ih, List.append_assoc]

/-- The plugins that are kept, each in the studio that it finds. -/
theorem load_eq_filterMap (setting : Setting) (studio : Studio) (plugins : List (Plugin σ)) :
    (load setting studio plugins).1 =
      plugins.zipIdx.filterMap fun (p, i) => p.kept setting (found setting studio plugins i) := by
  induction plugins generalizing studio with
  | nil => rfl
  | cons p rest ih =>
    -- The others find what they find when they are loaded behind the first.
    have later (i : Nat) : found setting studio (p :: rest) (i + 1) =
        found setting (load setting studio [p]).2 rest i := by
      rw [found, List.take_succ_cons, load_cons, found]
    have others : (rest.zipIdx 1).filterMap
          (fun (q, i) => q.kept setting (found setting studio (p :: rest) i)) =
        (load setting (load setting studio [p]).2 rest).1 := by
      rw [ih, List.zipIdx_succ, List.filterMap_map]
      congr 1
      funext ⟨q, i⟩
      exact congrArg (q.kept setting) (later i)
    rw [List.zipIdx_cons, List.filterMap_cons, zero_add, others, load_cons]
    dsimp only [found, List.take_zero, load]
    cases p.kept setting studio <;> rfl

/-- A plugin finds what the one in front of it has left. -/
theorem found_succ {i : Nat} (here : plugins[i]? = some p) :
    (found setting studio plugins (i + 1)).Alike
      (p.leaves setting (found setting studio plugins i)) := by
  unfold found
  rw [List.take_add_one, here, Option.toList_some, load_append]
  exact left_alike ..

/-- The plugins that are kept do not depend on the log. -/
theorem load_alike (blind : ∀ p ∈ plugins, p.behaviour.LogBlind) (alike : studio.Alike other) :
    (load setting studio plugins).1 = (load setting other plugins).1 := by
  induction plugins generalizing studio other with
  | nil => rfl
  | cons p rest ih =>
    obtain ⟨first, others⟩ := List.forall_mem_cons.mp blind
    have left : (load setting studio [p]).2.Alike (load setting other [p]).2 :=
      ((left_alike ..).trans (Plugin.leaves_alike first alike)).trans (left_alike ..).symm
    rw [load_cons, load_cons setting other, Plugin.kept_alike first alike, ih others left]

/-- A plugin that is discarded leaves only fonts to those behind it. -/
theorem load_discarded (readOnly : p.behaviour.ReadOnly)
    (blind : ∀ q ∈ after, q.behaviour.LogBlind)
    (discarded : p.kept setting studio = none) (files : other.files = studio.files)
    (fonts : other.fonts = (p.leaves setting studio).fonts) :
    (load setting studio (p :: after)).1 = (load setting other after).1 := by
  have same : (p.leaves setting studio).Alike other :=
    ⟨(Plugin.files_leaves readOnly).trans files.symm, fonts.symm⟩
  rw [load_cons, discarded]
  exact load_alike blind ((left_alike ..).trans same)

end Load

section Builtin

variable (feed : SensorFeed)

/-- The monitor and the end card are loaded in any studio. -/
theorem load_monitor_card (setting : Setting) (studio : Studio) :
    (load setting studio [SystemMonitor.plugin feed, EndCard.plugin feed]).1.map Plugin.kind =
      [SystemMonitor.plugin feed, EndCard.plugin feed].map Plugin.kind := by
  obtain ⟨monitor, keptMonitor⟩ := SystemMonitor.exists_kept feed setting studio
  obtain ⟨card, keptCard⟩ := EndCard.exists_kept feed setting
    (load setting studio [SystemMonitor.plugin feed]).2
  have isMonitor := Plugin.kind_of_kept SystemMonitor.behaviour_orderly keptMonitor
  have isCard := Plugin.kind_of_kept (Behaviour.still_orderly EndCard.setUp_reaches) keptCard
  rw [load_cons, load_cons _ _ (EndCard.plugin feed), keptMonitor, keptCard]
  simp [load, isMonitor, isCard]

theorem roll_of_accepted
    (accepted : Splash.Accepted studio.files setting.dataDirectory) :
    (Carousel.start setting studio (builtinPlugins feed)).1.roll =
      (builtinPlugins feed).map Plugin.kind := by
  obtain ⟨splash, kept⟩ := Splash.exists_kept feed accepted
  have isSplash := Plugin.kind_of_kept (Behaviour.still_orderly Splash.setUp_reaches) kept
  rw [roll, start_eq, builtinPlugins, load_cons, kept, List.map_append, load_monitor_card]
  simp [isSplash]

theorem roll_of_refused
    (refused : ¬ Splash.Accepted studio.files setting.dataDirectory) :
    (Carousel.start setting studio (builtinPlugins feed)).1.roll =
      [SystemMonitor.plugin feed, EndCard.plugin feed].map Plugin.kind := by
  obtain ⟨discarded, -⟩ := Splash.discarded_of_refused feed refused
  rw [roll, start_eq, builtinPlugins, load_cons, discarded, List.map_append, load_monitor_card]
  rfl

end Builtin

/-- A carousel starts with the plugins that are kept, each set up in the studio that the
one in front of it has left, and it starts at the first of them. One that is discarded
could as well be missing from the list if only the fonts that it has left are in the
cache. Of the built-in plugins the monitor and the end card are there whatever the files
contain, and the splash screen is in front of them exactly if its bitmap is accepted. -/
theorem start_keeps (setting : Setting) (studio : Studio) :
    (∀ plugins : List (Plugin σ),
      let c := (Carousel.start setting studio plugins).1
      let found := found setting studio plugins
      (c.current = 0 ∧ c.ticks = 0 ∧ c.locked = false ∧
        (c.plugins = [] → c.state = .vacant) ∧ (c.plugins ≠ [] → c.state = .showing 0 false)) ∧
      (found 0 = studio ∧ ∀ i p, plugins[i]? = some p →
        (found (i + 1)).Alike (p.leaves setting (found i))) ∧
      (c.plugins = plugins.zipIdx.filterMap fun (p, i) => p.kept setting (found i)) ∧
      ∀ before p after, plugins = before ++ p :: after →
        p.kept setting (found before.length) = none → p.behaviour.ReadOnly →
        (∀ q ∈ after, q.behaviour.LogBlind) →
        ∀ other : Studio, other.files = (found before.length).files →
          other.fonts = (p.leaves setting (found before.length)).fonts →
          c.plugins = (Carousel.start setting studio before).1.plugins ++
            (Carousel.start setting other after).1.plugins) ∧
    ∀ feed : SensorFeed,
      let c := (Carousel.start setting studio (builtinPlugins feed)).1
      (Splash.Accepted studio.files setting.dataDirectory →
        c.roll = (builtinPlugins feed).map Plugin.kind) ∧
      (¬ Splash.Accepted studio.files setting.dataDirectory →
        c.roll = [SystemMonitor.plugin feed, EndCard.plugin feed].map Plugin.kind) := by
  refine ⟨fun plugins => ⟨⟨rfl, rfl, rfl, ?vacant, ?showing⟩, ⟨rfl, fun i p => found_succ⟩,
    load_eq_filterMap setting studio plugins, ?discarded⟩,
    fun feed => ⟨roll_of_accepted feed, roll_of_refused feed⟩⟩
  case vacant =>
    intro empty
    exact if_pos (List.isEmpty_iff.mpr empty)
  case showing =>
    intro loaded
    exact if_neg (mt List.isEmpty_iff.mp loaded)
  case discarded =>
    rintro before p after rfl discarded readOnly blind other files fonts
    rw [found, List.take_left] at discarded files fonts
    rw [start_eq, start_eq, start_eq, load_append]
    exact congrArg _ (load_discarded readOnly blind discarded files fonts)

/-- Without a data directory the splash screen is discarded; the others are loaded as if
it had never been there. -/
theorem start_keeps_bare :
    let setting : Setting := ⟨"data", "Keys"⟩
    let studio : Studio := ⟨FileTree.empty, FontCache.empty "data", []⟩
    let feed : SensorFeed := ⟨[]⟩
    let c := (Carousel.start setting studio (builtinPlugins feed)).1
    ((Splash.plugin feed).kept setting studio = none ∧
      c.plugins = (Carousel.start setting studio
        [SystemMonitor.plugin feed, EndCard.plugin feed]).1.plugins) ∧
    ¬ Splash.Accepted studio.files setting.dataDirectory ∧
      c.roll = [SystemMonitor.plugin feed, EndCard.plugin feed].map Plugin.kind := by
  intro setting studio feed c
  have refused : ¬ Splash.Accepted studio.files setting.dataDirectory := by
    rintro ⟨bytes, picture, read, -⟩
    have missing : studio.files.read (FileTree.join setting.dataDirectory Panel.splashFile) =
        .error .notFound := by decide +kernel
    cases missing.symm.trans read
  obtain ⟨discarded, untouched⟩ := Splash.discarded_of_refused feed refused
  obtain ⟨keeps, loaded⟩ := start_keeps (σ := SensorFeed) setting studio
  obtain ⟨-, -, -, behind⟩ := keeps (builtinPlugins feed)
  have readOnly := (builtinPlugins_keep feed (Splash.plugin feed) (List.mem_cons_self ..)).readOnly
  have blind : ∀ p ∈ [SystemMonitor.plugin feed, EndCard.plugin feed], p.behaviour.LogBlind :=
    fun p member => builtinPlugins_logBlind feed p (List.mem_cons_of_mem _ member)
  have same := behind [] _ _ rfl discarded readOnly blind studio rfl
    (congrArg Studio.fonts untouched).symm
  exact ⟨⟨discarded, same⟩, refused, (loaded feed).2 refused⟩

end LcdCompositor.Carousel
