import ContactSegments.Settings.KeyRing
import ContactSegments.Settings.Limits

/-! # Settings

The settings of a service, in four groups beside its name. Every one of them has a standard value.
-/

namespace ContactSegments

/-- Where requests are answered. -/
structure ApiSettings where
  host : String
  port : Nat
deriving DecidableEq, Repr

/-- Where metrics are shown. -/
structure MetricsSettings where
  port : Nat
deriving DecidableEq, Repr

structure Settings where
  nodeId : String
  api : ApiSettings
  metrics : MetricsSettings
  segments : Limits
  tenants : KeyRing

namespace ApiSettings

def standard : ApiSettings := ⟨"0.0.0.0", 8080⟩

end ApiSettings

namespace MetricsSettings

def standard : MetricsSettings := ⟨9091⟩

end MetricsSettings

namespace Settings

def standard : Settings := ⟨"node-01", .standard, .standard, .standard, .empty⟩

end Settings

end ContactSegments
