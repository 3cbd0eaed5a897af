import ContactSegments.Settings.Basic
import ContactSegments.Wire.Contact

/-! # Settings as JSON

A setting that is absent has its standard value, and so have all settings of an absent group.
-/

namespace ContactSegments

/-- A port number. -/
def Reader.port : Reader Nat := .natBelow portBound

open RecordReader

namespace ApiSettings

def record : RecordReader ApiSettings :=
  ApiSettings.mk <$> optional "host" .text standard.host
    <*> optional "http_port" .port standard.port

def reader : Reader ApiSettings := record.read

end ApiSettings

namespace MetricsSettings

def record : RecordReader MetricsSettings :=
  MetricsSettings.mk <$> optional "port" .port standard.port

def reader : Reader MetricsSettings := record.read

end MetricsSettings

namespace Limits

def record : RecordReader Limits :=
  Limits.mk <$> optional "default_page_size" .word standard.defaultPageSize
    <*> optional "max_page_size" .word standard.maxPageSize
    <*> optional "max_conditions" .word standard.maxConditions

def reader : Reader Limits := record.read

end Limits

namespace KeyRing

def record : RecordReader KeyRing :=
  optional "api_keys" (fun d => (Reader.members OrganizationId.reader d).map ofList) empty

def reader : Reader KeyRing := record.read

end KeyRing

namespace Settings

def record : RecordReader Settings :=
  Settings.mk <$> optional "node_id" .text standard.nodeId
    <*> optional "api" ApiSettings.reader .standard
    <*> optional "metrics" MetricsSettings.reader .standard
    <*> optional "segments" Limits.reader .standard
    <*> optional "tenants" KeyRing.reader .empty

def reader : Reader Settings := record.read

end Settings

end ContactSegments
