import LcdCompositor.Formats
import LcdCompositor.Proofs.FileTree.Writing
import LcdCompositor.Proofs.Netpbm.RoundTrip
import LcdCompositor.Proofs.Session.Course

/-!
# What a session writes down

A session has at least one tick, so its last report and the frame on display come from
one and the same tick. No tick touches a file, and the report is written before the
frame. So of a session that may write both, the report carries the image of the frame,
unless no loaded plugin is enabled, when it is dark. A session whose machine stops writes
neither.
-/

namespace LcdCompositor

namespace Stage

/-- What a tick leaves to be written down. -/
theorem Underway.shown {reading : Snapshot} {first s t : Stage SensorFeed} {settings : Settings}
    {key : String} (h : Underway reading first s) (step : s.Steps settings key t)
    (running : t.stop = none) :
    ∃ image, t.carousel.report = Report.header ++ image ∧ image.length = Panel.frameLength ∧
      if first.carousel.hasEnabled settings.pluginsMask then
        ∃ frame, t.carousel.frame = some frame ∧ frame.size = Panel.size ∧
          image = frame.columnBytes
      else image = Report.darkImage := by
  have dark := Carousel.dark_iff_of_builtin h.reachable s.studio key settings.pluginsMask
  rw [h.evolved.hasEnabled] at dark
  rw [step.stop] at running
  obtain ⟨image, report, nothing, lit⟩ := Carousel.image_of_ended h.sound running
  rw [step.carousel]
  split
  next enabled =>
    obtain ⟨frame, onShow, size, rfl⟩ := lit (mt dark.mp (by simp [enabled]))
    exact ⟨_, report, Bitmap.length_columnBytes_of_size size, frame, onShow, size, rfl⟩
  next disabled =>
    obtain rfl := nothing (dark.mpr (Bool.not_eq_true _ ▸ disabled))
    exact ⟨_, report, List.length_replicate, rfl⟩

section Save

variable {σ : Type} {s : Stage σ} {settings : Settings} {path framePath : String}

/-- A file that can be written is written, and nothing else happens to the stage. -/
theorem save_of_writable (writable : s.studio.files.Writable path)
    (undertaking what : String) (bytes : List UInt8) :
    ∃ files, s.studio.files.write path bytes = .ok files ∧
      (s.save undertaking what path bytes).2 = none ∧
      (s.save undertaking what path bytes).1.carousel = s.carousel ∧
      (s.save undertaking what path bytes).1.studio.files = files := by
  obtain ⟨files, written⟩ := writable bytes
  rw [save, written]
  exact ⟨files, rfl, rfl, rfl, rfl⟩

/-- The report is written, and then the frame if there is one, each to its own file. -/
theorem read_saveAll (wanted : settings.dumpBuffer = some path)
    (wantedFrame : settings.dumpFrame = some framePath)
    (writable : s.studio.files.Writable path)
    (writableFrame : s.studio.files.Writable framePath)
    (distinct : s.studio.files.locate path ≠ s.studio.files.locate framePath) :
    (s.saveAll settings).2 = none ∧
      (s.saveAll settings).1.studio.files.read path = .ok s.carousel.report ∧
      ∀ frame, s.carousel.frame = some frame →
        (s.saveAll settings).1.studio.files.read framePath = .ok (Netpbm.write frame) := by
  obtain ⟨files, written, done, carousel, saved⟩ := save_of_writable writable
    "writing device buffer to " "device buffer" s.carousel.report
  have first : s.saveAll settings = (s.save "writing device buffer to " "device buffer" path
      s.carousel.report).1.saveFrame settings := by
    rw [saveAll, saveReport, wanted]
    dsimp only
    split
    next t failure result => simp [result] at done
    next t result => rw [result]
  generalize (s.save "writing device buffer to " "device buffer" path s.carousel.report).1 = t
    at carousel saved first
  have read := FileTree.read_written written
  rw [first, saveFrame, wantedFrame, carousel]
  cases onShow : s.carousel.frame with
  | none =>
    dsimp only
    rw [files_report, saved]
    exact ⟨rfl, read, nofun⟩
  | some frame =>
    have free : t.studio.files.Writable framePath := saved ▸ writableFrame.write written
    obtain ⟨last, rewritten, finished, -, stored⟩ :=
      save_of_writable free "creating " "frame" (Netpbm.write frame)
    have apart := FileTree.locate_ne_of_write written writableFrame distinct
    rw [saved] at rewritten
    dsimp only
    rw [stored]
    refine ⟨finished, FileTree.read_write_of_ne rewritten apart read, ?_⟩
    rintro _ ⟨⟩
    exact FileTree.read_written rewritten

/-- A session that the machine has not stopped ends well after what is wanted is written. -/
theorem conclude_of_ended (ended : s.stop = none) (wanted : settings.dumpBuffer = some path)
    (wantedFrame : settings.dumpFrame = some framePath)
    (writable : s.studio.files.Writable path)
    (writableFrame : s.studio.files.Writable framePath)
    (distinct : s.studio.files.locate path ≠ s.studio.files.locate framePath) (filter : String) :
    (s.conclude settings filter).exitCode = 0 ∧
      (s.conclude settings filter).files.read path = .ok s.carousel.report ∧
      ∀ frame, s.carousel.frame = some frame →
        (s.conclude settings filter).files.read framePath = .ok (Netpbm.write frame) := by
  have carousel : (s.summarise settings).carousel = s.carousel := rfl
  obtain ⟨succeeded, dumped, dumpedFrame⟩ := read_saveAll (s := s.summarise settings)
    wanted wantedFrame writable writableFrame distinct
  rw [carousel] at dumped dumpedFrame
  rw [conclude, ended]
  dsimp only
  generalize (s.summarise settings).saveAll settings = saved at *
  rw [finish, succeeded]
  exact ⟨rfl, dumped, dumpedFrame⟩

end Save

end Stage

/-- A session that may write its report and its frame to two different files ends well, and the
two agree: the report is a header and an image, and if any loaded plugin is enabled then the
frame is read back and its image is that of the report. Without an enabled plugin the image is
dark. Only a machine that stops keeps a session from that, when the monitor has come on display
with a rate that is too long for its font; then no file is written. -/
theorem run_dumps {formats : Formats} {arguments : List String} {e : Environment} {o : Options}
    {layer : Layer} {path framePath : String}
    (parsed : formats.readArguments arguments = .ok o)
    (loaded : Layer.load formats.readLayer o true e = .ok layer)
    (running : o.listPlugins = false ∧ o.dumpConfig = false)
    (wanted : layer.settings.dumpBuffer = some path)
    (wantedFrame : layer.settings.dumpFrame = some framePath)
    (writable : e.files.Writable path) (writableFrame : e.files.Writable framePath)
    (distinct : e.files.locate path ≠ e.files.locate framePath) :
    let outcome := run formats arguments e
    let reading := layer.snapshot e.hostname
    let last := (opened layer e).play layer.settings layer.settings.keys
    (¬ last.Overlong layer.settings reading → outcome.exitCode = 0 ∧
      ∃ image, outcome.files.read path = .ok (3 :: List.replicate 31 0 ++ image) ∧
        image.length = 960 ∧
        if (Stage.start layer.settings e.files
            (builtinPlugins ⟨[reading]⟩)).carousel.hasEnabled layer.settings.pluginsMask then
          ∃ bytes picture, outcome.files.read framePath = .ok bytes ∧
            Netpbm.read Panel.size bytes = .ok picture ∧
            ∀ destination, destination.length = 960 →
              Report.transcode destination picture = .ok image
        else image = List.replicate 960 0) ∧
      (last.Overlong layer.settings reading →
        outcome.exitCode = 101 ∧ outcome.files = e.files) := by
  intro outcome reading last
  have ticks := Layer.ticks_pos (Layer.invalidities_of_load loaded)
  obtain ⟨key, others, turned, -, -, long⟩ := exists_turns layer e ticks
  have ran : outcome = last.conclude layer.settings layer.logFilter :=
    run_eq parsed loaded running.1 running.2
  refine ⟨fun fits => ?_, run_of_overlong parsed loaded running.1 running.2⟩
  have ended : last.stop = none := by
    by_contra stopped
    exact fits (long.mp stopped)
  obtain ⟨before, keys, final, earlier, -, lastTick⟩ := turned.last
  have step := before.steps_tick layer.settings final
  rw [← lastTick] at step
  obtain ⟨image, report, length, shown⟩ :=
    ((underway_opened layer e).turns earlier).shown step ended
  rw [← files_turns turned] at writable writableFrame distinct
  obtain ⟨succeeded, dumped, dumpedFrame⟩ := Stage.conclude_of_ended ended wanted wantedFrame
    writable writableFrame distinct layer.logFilter
  rw [← ran] at succeeded dumped dumpedFrame
  refine ⟨succeeded, image, dumped.trans (congrArg _ report), length, ?_⟩
  split at shown
  next enabled =>
    obtain ⟨frame, onShow, size, rfl⟩ := shown
    rw [if_pos enabled]
    refine ⟨_, frame, dumpedFrame frame onShow, ?_, fun destination room => ?_⟩
    · rw [← size, Netpbm.read_write_self]
    · exact Report.transcode_eq room size
  next nothing =>
    rw [if_neg nothing]
    exact shown

/-- A command line that asks for both files and nothing else. -/
def dumpingLine : List String := ["--dump-buffer", "report.bin", "--dump-frame", "frame.pbm"]

/-- What it means. -/
def dumping : Options :=
  { Options.empty with dumpBuffer := some "report.bin", dumpFrame := some "frame.pbm" }

/-- Sixty ticks in an empty directory, where no font and no logo can be read: the report
and the frame agree all the same. -/
theorem run_dumps_bare :
    let e : Environment := ⟨FileTree.empty, none, none⟩
    let layer := dumping.layered Layer.empty
    Formats.standard.readArguments dumpingLine = .ok dumping ∧
    Layer.load readDocument dumping true e = .ok layer ∧
    (dumping.listPlugins = false ∧ dumping.dumpConfig = false) ∧
    (e.files.Writable "report.bin" ∧ e.files.Writable "frame.pbm" ∧
      e.files.locate "report.bin" ≠ e.files.locate "frame.pbm") ∧
    (run .standard dumpingLine e).exitCode = 0 ∧
    ∃ image bytes picture,
      (run .standard dumpingLine e).files.read "report.bin" =
        .ok (3 :: List.replicate 31 0 ++ image) ∧
      (run .standard dumpingLine e).files.read "frame.pbm" = .ok bytes ∧
      Netpbm.read Panel.size bytes = .ok picture ∧
      Report.transcode (List.replicate 960 0) picture = .ok image := by
  intro e layer
  have parsed : Formats.standard.readArguments dumpingLine = .ok dumping := by decide +kernel
  have loaded : Layer.load readDocument dumping true e = .ok layer := by decide +kernel
  have writable : e.files.Writable "report.bin" :=
    FileTree.writable_iff.mpr ⟨["report.bin"], by decide +kernel⟩
  have writableFrame : e.files.Writable "frame.pbm" :=
    FileTree.writable_iff.mpr ⟨["frame.pbm"], by decide +kernel⟩
  have distinct : e.files.locate "report.bin" ≠ e.files.locate "frame.pbm" := by decide +kernel
  have enabled : (Stage.start layer.settings e.files
      (builtinPlugins ⟨[layer.snapshot e.hostname]⟩)).carousel.hasEnabled
        layer.settings.pluginsMask = true := by decide +kernel
  have short : ¬ 13106 < (layer.snapshot e.hostname).transmitRate.toList.length := by
    decide +kernel
  obtain ⟨written, -⟩ :=
    run_dumps parsed loaded ⟨rfl, rfl⟩ rfl rfl writable writableFrame distinct
  obtain ⟨code, image, report, -, shown⟩ := written fun overlong => short overlong.long
  rw [if_pos enabled] at shown
  obtain ⟨bytes, picture, frame, decoded, same⟩ := shown
  exact ⟨parsed, loaded, ⟨rfl, rfl⟩, ⟨writable, writableFrame, distinct⟩, code,
    image, bytes, picture, report, frame, decoded, same _ List.length_replicate⟩

/-- A session with a rate of 13107 letters that may write both files writes neither. -/
theorem run_dumps_stopped :
    rateFormats.readArguments rateLine = .ok rateOptions ∧
      Layer.load rateFormats.readLayer rateOptions true rateDesk = .ok (rateLayer longRate) ∧
      (rateDesk.files.Writable "report.bin" ∧ rateDesk.files.Writable "frame.pbm" ∧
        rateDesk.files.locate "report.bin" ≠ rateDesk.files.locate "frame.pbm") ∧
      (run rateFormats rateLine rateDesk).exitCode = 101 ∧
      (run rateFormats rateLine rateDesk).files.contains "report.bin" = false ∧
      (run rateFormats rateLine rateDesk).files.contains "frame.pbm" = false := by
  have parsed : rateFormats.readArguments rateLine = .ok rateOptions := by decide +kernel
  obtain ⟨code, files⟩ := run_of_overlong parsed load_longRate rfl rfl turns_longRate.2
  rw [files]
  refine ⟨parsed, load_longRate, ⟨?_, ?_, by decide +kernel⟩, code, ?_, ?_⟩
  · exact FileTree.writable_iff.mpr ⟨["report.bin"], by decide +kernel⟩
  · exact FileTree.writable_iff.mpr ⟨["frame.pbm"], by decide +kernel⟩
  · decide +kernel
  · decide +kernel

end LcdCompositor
