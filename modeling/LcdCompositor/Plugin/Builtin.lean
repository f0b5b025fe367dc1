import LcdCompositor.Plugin.Splash
import LcdCompositor.Plugin.SystemMonitor
import LcdCompositor.Plugin.EndCard

/-!
# The built-in plugins
-/

namespace LcdCompositor

/-- Every built-in plugin in the order of rotation. Only the monitor uses the feed. -/
def builtinPlugins (feed : SensorFeed) : List (Plugin SensorFeed) :=
  [Splash.plugin feed, SystemMonitor.plugin feed, EndCard.plugin feed]

end LcdCompositor
