import FleetGate.Config.Tables
import FleetGate.Url

/-!
# The tables of toolsets

One toolset has a table of its own: `kiali`, which says where a Kiali server is
and which authority signs its certificate.
-/

namespace FleetGate.Config

open Toml

/-- Where a Kiali server is. -/
structure Kiali where
  /-- Its address. -/
  url : String := ""
  /-- Whether any certificate will do. -/
  insecure : Bool := false
  /-- The file of the authority that signs its certificate. -/
  authority : Option String := none
deriving DecidableEq, Repr, Inhabited

namespace Kiali

/-- The name of the toolset. -/
def toolset : String := "kiali"

/-- Decodes the table as it is written. -/
def decode : Decoder Kiali :=
  Decoder.record "KialiConfig" [
    Decoder.field "url" Decoder.text fun v c => { c with url := v },
    Decoder.field "insecure" Decoder.bool fun v c => { c with insecure := v },
    Decoder.field "certificate_authority" (Decoder.some? Decoder.text)
      fun v c => { c with authority := v }] {}

/-- Reads the table.  A relative file is found from where the configuration is, and
an empty name of one counts as none. -/
def read (origin : Origin) (t : Toml) : Except String Kiali :=
  match decode t with
  | .error e => .error e.message
  | .ok c =>
      .ok { c with authority := (c.authority.filter (!·.isEmpty)).map (resolvePath origin) }

/-- An address must be a web address, and a certificate must be trusted by name or
not looked at. -/
def check (c : Kiali) : Except String Unit :=
  if c.url.isEmpty then .error "url is required"
  else match Url.parse c.url with
    | .error flaw => .error ("invalid url: " ++ flaw.message)
    | .ok u =>
        if u.scheme != "http" && u.scheme != "https" then
          .error ("url must use http or https, got " ++ u.scheme)
        else if !c.insecure && c.authority.isNone then
          .error "certificate_authority is required unless insecure is true"
        else .ok ()

/-- The reader of the table. -/
def reader : TableReader Kiali := ⟨read, check⟩

end Kiali

end FleetGate.Config
